/-!
# Control sequences

What is left of a text where control sequences have no effect: the characters that can be seen, and
blanks and line ends. A control sequence starts with the escape character. Behind it stands either
one character, or a bracket and parameters up to a letter, or the opening of a string, which goes on
up to the next sequence and is taken for part of it.
-/

namespace Galley.Terminal

/-- Where the reading of a text stands: outside sequences, behind an escape, in the parameters of a
sequence, in a string that a bell can end, or in one that only a sequence ends. -/
inductive Place where
  | outside
  | escaped
  | parameters
  | title
  | string
  deriving DecidableEq, Repr

/-- Whether a character is a blank or ends a line. -/
def isSpacing (c : Char) : Bool := c ∈ [' ', '\t', '\n', '\x0c', '\r']

/-- Whether a character is a control character. -/
def isControl (c : Char) : Bool := c.toNat < 0x20 || c.toNat = 0x7f

/-- Where reading goes on behind the character after an escape. -/
def Place.opened (c : Char) : Place :=
  if c = '[' then .parameters
  else if c = ']' then .title
  else if c ∈ ['P', 'X', '^', '_'] then .string
  else if 0x30 ≤ c.toNat && c.toNat < 0x7f then .outside
  else .escaped

/-- Takes a character: where reading goes on, and whether the character is left. -/
def Place.step (place : Place) (c : Char) : Place × Bool :=
  if c = '\x1b' then (.escaped, false)
  else if c = '\x18' ∨ c = '\x1a' then (.outside, false)
  else match place with
    | outside => (.outside, isSpacing c || !isControl c)
    | escaped => if isControl c && isSpacing c then (.outside, true) else (.opened c, false)
    | parameters =>
      if isControl c && isSpacing c then (.outside, true)
      else (if 0x40 ≤ c.toNat && c.toNat < 0x7f then .outside else .parameters, false)
    | title => (if c = '\x07' then .outside else .title, false)
    | string => (.string, false)

/-- What is left of a text from some place on. -/
def withoutSequencesFrom : Place → List Char → List Char
  | _, [] => []
  | place, c :: cs =>
    let (next, isLeft) := place.step c
    if isLeft then c :: withoutSequencesFrom next cs else withoutSequencesFrom next cs

/-- What is left of a text without its control sequences. -/
def withoutSequences (text : String) : String :=
  String.ofList (withoutSequencesFrom .outside text.toList)

end Galley.Terminal
