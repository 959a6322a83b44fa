import Galley.Text.Mark

/-!
# Directions

Which way characters are written, and whether a label can be read in one way only, though some of
its characters are written from the right to the left.
-/

namespace Galley.Text

/-- The ways of characters: letters written to the right or to the left, the two kinds of digits,
marks that go with the character before them, and all others, which go with what is around them. -/
inductive Direction where
  | rightward
  | leftward
  | digit
  | leftwardDigit
  | mark
  | neutral
  deriving DecidableEq, Repr

/-- The ranges of letters that are written to the left. -/
def leftwardRanges : List (Nat × Nat) :=
  [
    (0x5be, 0x5f4), (0x608, 0x608), (0x60b, 0x60b), (0x60d, 0x60d), (0x61b, 0x64a), (0x66d, 0x6d5),
    (0x6e5, 0x6e6), (0x6ee, 0x6ef), (0x6fa, 0x7f5), (0x7fa, 0x8c9), (0xfbb2, 0xfbc2),
    (0xfe73, 0xfe73), (0x10800, 0x1091b), (0x10920, 0x10b35), (0x10b40, 0x10d23),
    (0x10d40, 0x10d8f), (0x10e80, 0x10ec7), (0x10f00, 0x10ff6), (0x1e800, 0x1ed3d)
  ]

/-- The ranges of digits that go with letters written to the left. -/
def leftwardDigitRanges : List (Nat × Nat) :=
  [
    (0x660, 0x669), (0x66b, 0x66c), (0x10d30, 0x10d39), (0x10e60, 0x10e7e)
  ]

/-- The ranges of other digits beyond ASCII. -/
def digitRanges : List (Nat × Nat) :=
  [
    (0x6f0, 0x6f9), (0x102e1, 0x102fb)
  ]

/-- The ranges of characters beyond ASCII that have no way of their own. -/
def neutralRanges : List (Nat × Nat) :=
  [
    (0xa1, 0xd7), (0xf7, 0xf7), (0x2b9, 0x2ba), (0x2c2, 0x2cf), (0x2d2, 0x2ed), (0x2ef, 0x2ff),
    (0x375, 0x375), (0x3f6, 0x3f6), (0x58a, 0x58f), (0x606, 0x607), (0x609, 0x60a), (0x60c, 0x60c),
    (0x60e, 0x60f), (0x66a, 0x66a), (0x6de, 0x6de), (0x6e9, 0x6e9), (0x7f6, 0x7f9), (0x9f2, 0x9f3),
    (0x9fb, 0x9fb), (0xaf1, 0xaf1), (0xbf3, 0xbfa), (0xc78, 0xc7e), (0xe3f, 0xe3f), (0xf3a, 0xf3d),
    (0x1390, 0x1399), (0x1400, 0x1400), (0x169b, 0x169c), (0x17db, 0x17db), (0x17f0, 0x180a),
    (0x1940, 0x1945), (0x19de, 0x19ff), (0x1b4e, 0x1b4f), (0x1b7f, 0x1b7f), (0x200c, 0x214d),
    (0x218a, 0x2335), (0x237b, 0x2394), (0x2396, 0x26ab), (0x26ad, 0x27ff), (0x2900, 0x2bff),
    (0x2ce5, 0x2cea), (0x2cf9, 0x2cff), (0x2e00, 0x3004), (0x3008, 0x3020), (0x3030, 0x3030),
    (0x3037, 0x3037), (0x303d, 0x303f), (0x30a0, 0x30a0), (0x30fb, 0x30fb), (0x31c0, 0x31e5),
    (0x4dc0, 0x4dff), (0xa490, 0xa4c6), (0xa60d, 0xa60f), (0xa673, 0xa67f), (0xa700, 0xa721),
    (0xa788, 0xa788), (0xa828, 0xa82b), (0xa838, 0xa839), (0xa874, 0xa877), (0xab6a, 0xab6b),
    (0xfbc3, 0xfe46), (0x10101, 0x10101), (0x10140, 0x1018c), (0x10190, 0x101a0),
    (0x1091f, 0x1091f), (0x10b39, 0x10b3f), (0x10ed0, 0x10ed8), (0x11052, 0x11065),
    (0x11660, 0x1166c), (0x1171e, 0x1171e), (0x11fd5, 0x11ff1), (0x16fe2, 0x16fe2),
    (0x1d1e9, 0x1d245), (0x1d300, 0x1d356), (0x1e2ff, 0x1e2ff), (0x1e5ff, 0x1e5ff),
    (0x1eef0, 0x1f12f), (0x1f16d, 0x1f16f), (0x1f1ad, 0x1f1ad), (0x1f260, 0x1fbfa)
  ]

/-- The way of a character. -/
def Direction.ofChar (c : Char) : Direction :=
  if c.toNat < 0x80 then if c.isAlpha then rightward else if c.isDigit then digit else neutral
  else if isNonspacing c then mark
  else if isWithin leftwardRanges c then leftward
  else if isWithin leftwardDigitRanges c then leftwardDigit
  else if isWithin digitRanges c then digit
  else if isWithin neutralRanges c then neutral
  else rightward

/-- Whether something in a text is written to the left. -/
def hasLeftward (cs : List Char) : Bool :=
  cs.any fun c => Direction.ofChar c ∈ [Direction.leftward, Direction.leftwardDigit]

/-- The last way in a text that is not a mark's. -/
def lastDirection? (ways : List Direction) : Option Direction :=
  ways.reverse.find? (· ≠ .mark)

/-- Whether a label beside something written to the left can be read in one way only: it begins
with a letter, holds none that is written the other way, ends in a letter or digit, and, if it is
written to the left, has digits of one kind. -/
def isOneWay (label : List Char) : Bool :=
  let ways := label.map Direction.ofChar
  match ways with
  | [] => true
  | .rightward :: _ =>
    ways.all (· ∉ [Direction.leftward, .leftwardDigit])
      && lastDirection? ways ∈ [some .rightward, some .digit]
  | .leftward :: _ =>
    ways.all (· ≠ .rightward)
      && lastDirection? ways ∈ [some .leftward, some .digit, some .leftwardDigit]
      && !(ways.any (· = .digit) && ways.any (· = .leftwardDigit))
  | _ => false

end Galley.Text
