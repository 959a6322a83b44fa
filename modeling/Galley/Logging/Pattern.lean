import Galley.Text.Blank
import Galley.Text.Digits
import Galley.Text.Letter

/-!
# Patterns

A pattern describes texts, as a regular expression does: with alternatives, groups, classes of
characters in brackets, repetitions, escapes and flags. `isPattern` says whether a text is one that
can be searched for one character at a time: it is well-formed, it does not ask for bytes that are
no text, and it does not look for the ends of words, unless words are those of ASCII.

How often something is to be repeated cannot be given as a number: no brace can be closed in a log
filter, where patterns stand.
-/

namespace Galley.Logging.Pattern

/-- How a part of a pattern is read: whether for ASCII only, and whether blanks and comments in it
are passed over. -/
structure Mode where
  ascii : Bool
  spaced : Bool
  deriving DecidableEq, Repr

/-- The text at the next character that counts. -/
def skip (m : Mode) (cs : List Char) : List Char :=
  if m.spaced then go false cs else cs
where
  go : (comment : Bool) → List Char → List Char
    | _, [] => []
    | true, c :: cs => go (c != '\n') cs
    | false, c :: cs =>
      if c = '#' then go true cs else if Text.isBlank c then go false cs else c :: cs

-- ---------------------------------------------------------------------------
-- Escapes
-- ---------------------------------------------------------------------------

/-- What a character or an escape stands for: a character by its number, perhaps written as a byte;
a set of characters, perhaps by what is not in it; those of a general category; the start or the end
of the text; or the end of a word. -/
inductive Item where
  | char (code : Nat) (byte : Bool)
  | set (negated : Bool)
  | category
  | edge
  | wordEnd
  deriving DecidableEq, Repr

/-- Reads so many hexadecimal digits after the number `n`. -/
def readCode : (digits n : Nat) → List Char → Option (Nat × List Char)
  | 0, n, cs => some (n, cs)
  | digits + 1, n, c :: cs => (Text.hexValue c).bind fun d => readCode digits (16 * n + d) cs
  | _ + 1, _, [] => none

/-- Reads a character that is written by its number. -/
def readNumbered (byte : Bool) (digits : Nat) (cs : List Char) : Option (Item × List Char) := do
  let (n, cs) ← readCode digits 0 cs
  if n.isValidChar then some (.char n byte, cs) else none

/-- The control characters that have a letter for their escape. -/
def controls : List (Char × Nat) :=
  [('a', 7), ('f', 12), ('t', 9), ('n', 10), ('r', 13), ('v', 11)]

/-- Reads an escape behind its backslash. -/
def readEscape : List Char → Option (Item × List Char)
  | [] => none
  | c :: cs =>
    if c = 'x' then readNumbered true 2 cs
    else if c = 'u' then readNumbered false 4 cs
    else if c = 'U' then readNumbered false 8 cs
    else if c = 'p' ∨ c = 'P' then
      match cs with
      | d :: cs => if d.toLower ∈ "clmnpsz".toList then some (.category, cs) else none
      | [] => none
    else if c ∈ ['d', 's', 'w'] then some (.set false, cs)
    else if c ∈ ['D', 'S', 'W'] then some (.set true, cs)
    else if c = 'A' ∨ c = 'z' then some (.edge, cs)
    else if c = 'b' then if cs.head? = some '\x7b' then none else some (.wordEnd, cs)
    else if c ∈ ['B', '<', '>'] then some (.wordEnd, cs)
    else match controls.lookup c with
      | some code => some (.char code false, cs)
      | none =>
        if c.isAlphanum ∨ 0x80 ≤ c.toNat then none else some (.char c.toNat false, cs)

/-- Whether an item can stand by itself. -/
def Item.isFine (m : Mode) : Item → Bool
  | .char code byte => !(m.ascii && byte && 0x80 ≤ code)
  | .set negated => !(m.ascii && negated)
  | .category => !m.ascii
  | .edge => true
  | .wordEnd => m.ascii

/-- Whether an item can stand in a class. -/
def Item.isMember (m : Mode) : Item → Bool
  | .char code _ => !(m.ascii && 0x80 ≤ code)
  | .set negated => !(m.ascii && negated)
  | .category => !m.ascii
  | .edge => false
  | .wordEnd => false

-- ---------------------------------------------------------------------------
-- Classes
-- ---------------------------------------------------------------------------

/-- The names of classes of ASCII. -/
def classNames : List String :=
  ["alnum", "alpha", "ascii", "blank", "cntrl", "digit", "graph", "lower", "print", "punct",
    "space", "upper", "word", "xdigit"]

/-- Reads the name of a class of ASCII behind its opening bracket: whether it is negated, and the
text after it. -/
def readClassName? (cs : List Char) : Option (Bool × List Char) :=
  match cs with
  | ':' :: cs =>
    let (negated, cs) := match cs with
      | '^' :: cs => (true, cs)
      | cs => (false, cs)
    let name := cs.takeWhile (· != ':')
    match cs.drop name.length with
    | ':' :: ']' :: rest => if String.ofList name ∈ classNames then some (negated, rest) else none
    | _ => none
  | _ => none

/-- Opens a class behind its bracket: hyphens and then a closing bracket at its start are members of
it. -/
def openClass (m : Mode) (cs : List Char) : Option (List Char) :=
  let cs := skip m cs
  let (negated, cs) := match cs with
    | '^' :: cs => (true, skip m cs)
    | cs => (false, cs)
  if negated ∧ m.ascii then none
  else
    let rest := cs.dropWhile (· == '-')
    if rest.length < cs.length then some rest
    else match cs with
      | ']' :: rest => some rest
      | cs => some cs

/-- Reads a member of a class, or an end of a range. -/
def readMember : List Char → Option (Item × List Char)
  | '\\' :: cs => readEscape cs
  | c :: cs => some (.char c.toNat false, cs)
  | [] => none

/-- Reads a member or a range. -/
def readRange (m : Mode) (cs : List Char) : Option (List Char) := do
  let (first, cs) ← readMember cs
  if !first.isMember m then none
  match skip m cs with
  | '-' :: more =>
    match skip m more with
    | [] => none
    | c :: more =>
      if c = ']' ∨ c = '-' then some cs
      else do
        let (last, rest) ← readMember (c :: more)
        match first, last with
        | .char a _, .char b _ => if a ≤ b ∧ last.isMember m then some rest else none
        | _, _ => none
  | _ => some cs

/-- Reads a class up to its closing bracket, with so many classes open around the place. The fuel
bounds the length of the text. -/
def readClass (m : Mode) : (fuel depth : Nat) → List Char → Option (List Char)
  | 0, _, _ => none
  | fuel + 1, depth, cs =>
    match skip m cs with
    | [] => none
    | '[' :: cs =>
      match readClassName? cs with
      | some (negated, rest) => if negated ∧ m.ascii then none else readClass m fuel depth rest
      | none => do readClass m fuel (depth + 1) (← openClass m cs)
    | ']' :: cs => if depth ≤ 1 then some cs else readClass m fuel (depth - 1) cs
    | '&' :: '&' :: cs => readClass m fuel depth cs
    | '-' :: '-' :: cs => readClass m fuel depth cs
    | '~' :: '~' :: cs => readClass m fuel depth cs
    | cs => do readClass m fuel depth (← readRange m cs)

-- ---------------------------------------------------------------------------
-- Groups
-- ---------------------------------------------------------------------------

/-- Where the reading of flags stands: the mode so far, the flags met, and whether behind a minus
sign, and right behind it. -/
structure FlagReading where
  mode : Mode
  met : List Char
  negated : Bool
  dangling : Bool

/-- Reads flags up to a colon or a closing parenthesis: the mode that they give, whether there are
any, and the text at the mark after them. -/
def readFlags (r : FlagReading) : List Char → Option (Mode × Bool × List Char)
  | [] => none
  | c :: cs =>
    if c = ':' ∨ c = ')' then if r.dangling then none else some (r.mode, !r.met.isEmpty, c :: cs)
    else if c = '-' then
      if r.negated then none
      else readFlags { r with negated := true, dangling := true, met := c :: r.met } cs
    else if c ∈ "imsUuRx".toList ∧ c ∉ r.met then
      let mode :=
        if c = 'u' then { r.mode with ascii := r.negated }
        else if c = 'x' then { r.mode with spaced := !r.negated }
        else r.mode
      readFlags { r with mode := mode, met := c :: r.met, dangling := false } cs
    else none

/-- Whether a character can start the name of a group. -/
def startsName (c : Char) : Bool := c == '_' || Text.isLetter c

/-- Whether a character can go on the name of a group. -/
def continuesName (c : Char) : Bool :=
  c ∈ ['_', '.', '[', ']'] || Text.isLetterOrNumeral c

/-- Reads the name of a group up to the bracket that closes it. -/
def readName (cs : List Char) : Option (List Char × List Char) :=
  let name := cs.takeWhile (· != '>')
  match cs.drop name.length with
  | _ :: rest =>
    if name.head?.any startsName ∧ name.all continuesName then some (name, rest) else none
  | [] => none

-- ---------------------------------------------------------------------------
-- Patterns
-- ---------------------------------------------------------------------------

/-- How deep groups can be nested. -/
def maxDepth : Nat := 250

/-- Where the reading of a pattern stands: the mode, the modes around the open groups, whether there
is something to be repeated, and the names of groups. -/
structure Reading where
  mode : Mode
  outer : List Mode
  repeatable : Bool
  names : List (List Char)

namespace Reading

/-- Nothing has been read. -/
def start : Reading := ⟨⟨false, false⟩, [], false, []⟩

/-- Something has been read that can be repeated. -/
def done (r : Reading) : Reading := { r with repeatable := true }

/-- A group has been opened whose inside is read in a mode. -/
def opened (r : Reading) (inside : Mode) : Option Reading :=
  if r.outer.length < maxDepth then
    some { r with mode := inside, outer := r.mode :: r.outer, repeatable := false }
  else none

/-- Opens a group behind its parenthesis, or sets flags. -/
def openGroup (r : Reading) (cs : List Char) : Option (Reading × List Char) :=
  let named (cs : List Char) : Option (Reading × List Char) := do
    let (name, rest) ← readName cs
    if name ∈ r.names then none
    else return ({ (← r.opened r.mode) with names := name :: r.names }, rest)
  match skip r.mode cs with
  | '?' :: 'P' :: '<' :: cs => named cs
  | '?' :: '<' :: cs => named cs
  | '?' :: cs => do
    match ← readFlags ⟨r.mode, [], false, false⟩ cs with
    | (mode, _, ':' :: rest) => return (← r.opened mode, rest)
    | (mode, true, _ :: rest) => some ({ r with mode := mode, repeatable := false }, rest)
    | _ => none
  | cs => do return (← r.opened r.mode, cs)

/-- Takes the next part of a pattern, which starts with a character. -/
def step (r : Reading) (c : Char) (cs : List Char) : Option (Reading × List Char) :=
  if c = '(' then r.openGroup cs
  else if c = ')' then
    match r.outer with
    | [] => none
    | mode :: outer => some ({ r with mode := mode, outer := outer, repeatable := true }, cs)
  else if c = '|' then some ({ r with repeatable := false }, cs)
  else if c = '[' then do
    return (r.done, ← readClass r.mode (cs.length + 1) 1 (← openClass r.mode cs))
  else if c ∈ ['?', '*', '+'] then
    if r.repeatable then some (r, if cs.head? = some '?' then cs.tail else cs) else none
  else if c = '\x7b' then none
  else if c = '\\' then do
    let (item, rest) ← readEscape cs
    if item.isFine r.mode then some (r.done, rest) else none
  else if c = '.' then if r.mode.ascii then none else some (r.done, cs)
  else some (r.done, cs)

/-- Reads the rest of a pattern. The fuel bounds its length. -/
def finish : (fuel : Nat) → Reading → List Char → Bool
  | 0, _, _ => false
  | fuel + 1, r, cs =>
    match skip r.mode cs with
    | [] => r.outer.isEmpty
    | c :: cs =>
      match r.step c cs with
      | some (r, rest) => finish fuel r rest
      | none => false

end Reading

/-- Whether a text is a pattern. -/
def isPattern (cs : List Char) : Bool := Reading.start.finish (cs.length + 1) cs

end Galley.Logging.Pattern
