/-!
# Binary floating-point numbers

A finite 64-bit binary number is a sign and a *rank*: its place among the magnitudes, counted from
zero. Rank `r` stands for `significand · 2 ^ exponent`, where the significand has 53 bits, or fewer
at the smallest exponent. Neighbouring ranks are neighbouring numbers, so rounding only has to find
the right rank: `ofRatio` gives the number nearest to a quotient of natural numbers, of two equally
near ones the even one. Sum, product and quotient need no more than that, since their exact values
are quotients.
-/

namespace Galley

/-- A finite 64-bit binary number: a sign, and the place of its magnitude among all magnitudes. -/
structure Binary64 where
  negative : Bool
  rank : Nat
  deriving Repr, DecidableEq

namespace Binary64

/-- The number of magnitudes that share an exponent. -/
def binade : Nat := 0x10000000000000

/-- The smallest exponent. -/
def minExponent : Int := -1074

/-- The rank that would be infinity: one more than the largest finite magnitude has. -/
def infiniteRank : Nat := 2047 * binade

/-- The whole number that is scaled to give the magnitude. -/
def significand (x : Binary64) : Nat :=
  if x.rank < binade then x.rank else binade + x.rank % binade

/-- The power of two that scales the significand. -/
def exponent (x : Binary64) : Int :=
  if x.rank < binade then minExponent else minExponent + (x.rank / binade - 1 : Nat)

/-- The magnitude as a quotient of natural numbers. -/
def toRatio (x : Binary64) : Nat × Nat :=
  if 0 ≤ x.exponent then (x.significand * Nat.pow 2 x.exponent.toNat, 1)
  else (x.significand, Nat.pow 2 (-x.exponent).toNat)

/-- The whole number nearest to a quotient; of two equally near ones the even one. -/
def roundQuotient (num den : Nat) : Nat :=
  let q := num / den
  let r := num % den
  if 2 * r < den then q
  else if den < 2 * r then q + 1
  else if q % 2 = 0 then q else q + 1

/-- A quotient divided by a power of two, as a quotient. -/
def scaleDown (num den : Nat) (exponent : Int) : Nat × Nat :=
  if 0 ≤ exponent then (num, den * Nat.pow 2 exponent.toNat)
  else (num * Nat.pow 2 (-exponent).toNat, den)

/-- The rank nearest to the quotient of two positive numbers. It may lie beyond the finite ones. -/
def nearestRank (num den : Nat) : Nat :=
  let guess : Int := (Nat.log2 num : Int) - Nat.log2 den - 52
  let scaled := scaleDown num den guess
  let fitting := if scaled.1 < scaled.2 * binade then guess - 1 else guess
  let exponent := max fitting minExponent
  let scaled := scaleDown num den exponent
  roundQuotient scaled.1 scaled.2 + (exponent - minExponent).toNat * binade

/-- The number nearest to `± num / den`, unless its magnitude is too large. -/
def ofRatio (negative : Bool) (num den : Nat) : Option Binary64 :=
  if num = 0 then some ⟨negative, 0⟩
  else
    let rank := nearestRank num den
    if rank < infiniteRank then some ⟨negative, rank⟩ else none

/-- The natural number nearest to another among those that are binary numbers. -/
def roundNat (n : Nat) : Nat :=
  match ofRatio false n 1 with
  | some x => x.toRatio.1 / x.toRatio.2
  | none => n

/-- The product of two magnitudes, unless it is too large. -/
def mulMagnitude (x y : Binary64) : Option Binary64 :=
  ofRatio x.negative (x.toRatio.1 * y.toRatio.1) (x.toRatio.2 * y.toRatio.2)

/-- The quotient of two magnitudes, unless it is too large. -/
def divMagnitude (x y : Binary64) : Option Binary64 :=
  ofRatio x.negative (x.toRatio.1 * y.toRatio.2) (x.toRatio.2 * y.toRatio.1)

/-- Whether two numbers are equal as numbers: the two zeros are. -/
def same (x y : Binary64) : Bool := x == y || (x.rank == 0 && y.rank == 0)

end Binary64

end Galley
