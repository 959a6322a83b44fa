import Galley.Decimal.Extended
import Galley.Logging.Pattern

/-!
# Log filters

A filter is a list of directives parted by commas. A directive is a level, a target, or a target, a
span or both with a level behind an equals sign; a span may name fields in braces, and a field may
have a value, which is a number or a pattern. `isFilter` says whether a text is a filter.

Empty directives are passed over. Without an equals sign anything that starts like a name is fine,
as a level or as a target.
-/

namespace Galley.Logging

/-- Small letters for capital ones of ASCII. -/
def lower (cs : List Char) : List Char := cs.map Char.toLower

/-- Whether a text is a level: a name, or a number up to five. -/
def isLevel (cs : List Char) : Bool :=
  String.ofList (lower cs) ∈ ["", "trace", "debug", "info", "warn", "error", "off"]
    || isSmall (match cs with
      | '+' :: digits => digits
      | digits => digits)
where
  isSmall (digits : List Char) : Bool :=
    !digits.isEmpty && digits.all Char.isDigit
      && digits.foldl (fun n c => min 10 (10 * n + Text.digitValue c)) 0 ≤ 5

/-- Whether a directive can start with a character. -/
def startsDirective (c : Char) : Bool := c ∈ ['-', ':', '_'] || Text.isLetterOrNumeral c

/-- Whether a text is a field: a name, and perhaps a value behind an equals sign. What stands behind
another one does not count. -/
def isField (cs : List Char) : Bool :=
  !cs.isEmpty && match cs.dropWhile (· != '=') with
    | [] => true
    | _ :: rest =>
      let value := rest.takeWhile (· != '=')
      (Decimal.Extended.read? value).isSome || Pattern.isPattern value

/-- Where the reading of a directive stands. -/
inductive Place where
  | start
  | name
  | span
  | field (start : Nat)
  | afterFields
  | afterSpan
  | level (start : Nat)
  | complete
  deriving DecidableEq, Repr

/-- Whether a directive whose reading has come to a place ends well; `whole` is all of it, blanks
around it included. -/
def endsWell (whole : List Char) : Place → Bool
  | .name => true
  | .afterSpan => true
  | .complete => true
  | .level start => isLevel (whole.drop start)
  | _ => false

/-- The place after one more character, the one at `index`. -/
def next (whole : List Char) (index : Nat) (c : Char) : Place → Option Place
  | .start =>
    if c = '[' then some .span else if startsDirective c then some .name else none
  | .name =>
    if c = '=' then some (.level (index + 1))
    else if c = '[' then some .span
    else if c = ',' then some .complete
    else some .name
  | .span =>
    if c = ']' then some .afterSpan
    else if c = '{' then some (.field (index + 1))
    else some .span
  | .field start =>
    let fits := isField ((whole.drop start).take (index - start))
    if c = '}' then if fits then some .afterFields else none
    else if c = ',' then if fits then some (.field (index + 1)) else none
    else some (.field start)
  | .afterFields => if c = ']' then some .afterSpan else none
  | .afterSpan => if c = '=' then some (.level (index + 1)) else none
  | .level start =>
    if c = ',' then
      if isLevel ((whole.drop start).take (index - start)) then some .complete else none
    else some (.level start)
  | .complete => none

/-- Reads a directive from a place on. -/
def readFrom (whole : List Char) : (index : Nat) → Place → List Char → Bool
  | _, place, [] => endsWell whole place
  | index, place, c :: cs =>
    match next whole index c place with
    | some place => readFrom whole (index + 1) place cs
    | none => false

/-- Whether a text is a directive. -/
def isDirective (cs : List Char) : Bool := readFrom cs 0 .start (Text.trim cs)

/-- The stretches of a text between commas. -/
def stretches (cs : List Char) : List (List Char) :=
  cs.foldr
    (fun c parts => if c = ',' then [] :: parts
      else match parts with
        | [] => [[c]]
        | part :: rest => (c :: part) :: rest)
    [[]]

/-- Whether a text is a filter. -/
def isFilter (text : String) : Bool :=
  (stretches text.toList).all fun part => part.isEmpty || isDirective part

/-- Whether a filter with levels for single modules is one. -/
def isFilterWith (text : String) (levels : List (String × String)) : Bool :=
  isFilter text && levels.all fun (name, level) => isDirective (name ++ "=" ++ level).toList

end Galley.Logging
