import Galley.Text.Blank

/-!
# Placeholders

A placeholder is a name in double braces, such as `{{ .Customer.Name }}`: blanks may stand around
the name, and a dot right before it. A name starts with a letter or an underscore and goes on with
letters, digits, underscores and dots, all of ASCII.

`pieces` cuts a source into literal characters and placeholders, leftmost first and never
overlapping; nothing is lost by the cut. Substitution and the list of names both follow from it, so
they see the same placeholders. A value is put in as it is and not looked at again.
-/

namespace Galley

/-- A placeholder as it stands in a source. -/
structure Placeholder where
  before : List Char
  dotted : Bool
  name : List Char
  after : List Char
  deriving Repr, DecidableEq

namespace Placeholder

/-- The text of a placeholder. -/
def source (p : Placeholder) : List Char :=
  '{' :: '{' :: p.before ++ (if p.dotted then ['.'] else []) ++ p.name ++ p.after ++ ['}', '}']

/-- Whether a name can start with a character. -/
def startsName (c : Char) : Bool := c.isAlpha || c == '_'

/-- Whether a name can go on with a character. -/
def continuesName (c : Char) : Bool := startsName c || c.isDigit || c == '.'

/-- The placeholder with the given text before its name, if the rest of it follows. -/
def matchName (before : List Char) (dotted : Bool) (cs : List Char) : Option Placeholder :=
  match cs with
  | c :: cs =>
    if startsName c then
      let rest := cs.dropWhile continuesName
      match rest.dropWhile Text.isBlank with
      | '}' :: '}' :: _ =>
        some ⟨before, dotted, c :: cs.takeWhile continuesName, rest.takeWhile Text.isBlank⟩
      | _ => none
    else none
  | [] => none

/-- The placeholder that a text starts with. -/
def match? (cs : List Char) : Option Placeholder :=
  match cs with
  | '{' :: '{' :: cs =>
    let before := cs.takeWhile Text.isBlank
    match cs.dropWhile Text.isBlank with
    | '.' :: cs => matchName before true cs
    | cs => matchName before false cs
  | _ => none

/-- A part of a source. -/
inductive Piece where
  | literal (char : Char)
  | hole (placeholder : Placeholder)
  deriving Repr, DecidableEq

/-- The text of a piece. -/
def Piece.source : Piece → List Char
  | literal c => [c]
  | hole p => p.source

/-- Cuts a source into pieces, onto those cut off so far, the last of them first. The first `skip`
characters belong to a placeholder that has been taken already. -/
def piecesOnto : (done : List Piece) → (skip : Nat) → List Char → List Piece
  | done, _, [] => done.reverse
  | done, skip + 1, _ :: cs => piecesOnto done skip cs
  | done, 0, c :: cs =>
    match match? (c :: cs) with
    | some p => piecesOnto (.hole p :: done) (p.source.length - 1) cs
    | none => piecesOnto (.literal c :: done) 0 cs

/-- Cuts a source into literal characters and placeholders. -/
def pieces (source : List Char) : List Piece := piecesOnto [] 0 source

/-- Values for names. -/
abbrev Variables := List (String × String)

/-- The name of a placeholder, as a string. -/
def key (p : Placeholder) : String := String.ofList p.name

/-- The value of a name; an unset one counts as empty. -/
def valueOf (values : Variables) (name : String) : String := (values.lookup name).getD ""

/-- What a piece becomes. -/
def Piece.fill (values : Variables) : Piece → List Char
  | literal c => [c]
  | hole p => (valueOf values p.key).toList

/-- The name in a piece. -/
def Piece.key? : Piece → Option String
  | literal _ => none
  | hole p => some p.key

/-- The source with every placeholder replaced by its value. -/
def substitute (source : String) (values : Variables) : String :=
  String.ofList ((pieces source.toList).flatMap (Piece.fill values))

/-- Adds a name to those seen, unless it is among them. -/
def noteName (seen : List String) (name : String) : List String :=
  if name ∈ seen then seen else seen ++ [name]

/-- The names of the placeholders of a source, each once, in order of their first use. -/
def names (source : String) : List String :=
  ((pieces source.toList).filterMap Piece.key?).foldl noteName []

/-- The names of a source that have no value. -/
def missing (source : String) (values : Variables) : List String :=
  (names source).filter fun name => (values.lookup name).isNone

end Placeholder

end Galley
