/-!
# Ranges of characters

A set of characters as a list of ranges, each given by its first and its last number.
-/

namespace Galley.Text

/-- Whether one of the ranges holds a character. -/
def isWithin (ranges : List (Nat × Nat)) (c : Char) : Bool :=
  ranges.any fun (first, last) => first ≤ c.toNat && c.toNat ≤ last

end Galley.Text
