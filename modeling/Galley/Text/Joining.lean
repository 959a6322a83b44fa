import Galley.Text.Mark

/-!
# Joining letters

In cursive scripts a letter takes another shape where it joins the next one or the one before it.
Two characters that cannot be seen keep letters apart or join them, and can be told from nothing
only in certain places: behind a mark that kills a vowel, or, for the one that keeps apart, between
two letters that would join.
-/

namespace Galley.Text

/-- The ranges of letters that join on both sides. -/
def joiningRanges : List (Nat × Nat) :=
  [
    (0x620, 0x620), (0x626, 0x626), (0x628, 0x628), (0x62a, 0x62e), (0x633, 0x63f), (0x641, 0x647),
    (0x649, 0x64a), (0x66e, 0x66f), (0x679, 0x687), (0x69a, 0x6bf), (0x6c1, 0x6c2), (0x6cc, 0x6cc),
    (0x6ce, 0x6ce), (0x6d0, 0x6d1), (0x6fa, 0x6fc), (0x6ff, 0x6ff), (0x712, 0x714), (0x71a, 0x71d),
    (0x71f, 0x727), (0x729, 0x729), (0x72b, 0x72b), (0x72d, 0x72e), (0x74e, 0x758), (0x75c, 0x766),
    (0x850, 0x853), (0x855, 0x855), (0x8a0, 0x8a0), (0x8a2, 0x8a9), (0x1807, 0x1807),
    (0x1820, 0x1877), (0x1887, 0x18a8), (0x18aa, 0x18aa), (0xa840, 0xa871)
  ]

/-- The ranges of letters that join the one before them only. -/
def joiningBeforeRanges : List (Nat × Nat) :=
  [
    (0x622, 0x625), (0x627, 0x627), (0x629, 0x629), (0x62f, 0x632), (0x648, 0x648), (0x671, 0x673),
    (0x688, 0x699), (0x6c0, 0x6c0), (0x6c3, 0x6cb), (0x6cd, 0x6cd), (0x6cf, 0x6cf), (0x6d2, 0x6d3),
    (0x6d5, 0x6d5), (0x6ee, 0x6ef), (0x710, 0x710), (0x715, 0x719), (0x71e, 0x71e), (0x728, 0x728),
    (0x72a, 0x72a), (0x72c, 0x72c), (0x72f, 0x72f), (0x74d, 0x74d), (0x759, 0x75b), (0x854, 0x854),
    (0x8aa, 0x8ac)
  ]

/-- The ranges of letters that join the next one only. -/
def joiningNextRanges : List (Nat × Nat) :=
  [
    (0xa872, 0xa872)
  ]

/-- The character that keeps letters apart. -/
def nonJoiner : Char := '\u200c'

/-- The character that joins letters. -/
def joiner : Char := '\u200d'

/-- Whether a letter joins the one before it. -/
def joinsBefore (c : Char) : Bool := isWithin joiningRanges c || isWithin joiningBeforeRanges c

/-- Whether a letter joins the next one. -/
def joinsNext (c : Char) : Bool := isWithin joiningRanges c || isWithin joiningNextRanges c

/-- Whether a text behind its last mark, or in front of its first, passes a test. -/
def firstUnmarked (test : Char → Bool) (cs : List Char) : Bool :=
  (cs.dropWhile isNonspacing).head?.any test

/-- Whether the joiners of a text are in place; `before` is what stands before, last first. -/
def joinersFitFrom (before : List Char) : List Char → Bool
  | [] => true
  | c :: cs =>
    (if c = nonJoiner ∨ c = joiner then
      before.head?.any (fun m => markClass m = viramaClass)
        || (c = nonJoiner && firstUnmarked joinsNext before && firstUnmarked joinsBefore cs)
    else true) && joinersFitFrom (c :: before) cs

/-- Whether the joiners of a text are in place. -/
def joinersFit (cs : List Char) : Bool := joinersFitFrom [] cs

end Galley.Text
