import Galley.Decimal.Binary64

/-!
# Shortest decimals

The decimal with the fewest digits that reads back as a given binary number, and of those the one
nearest to it. Every real number between the midpoints to the two neighbours of `x` reads as `x`;
the midpoints themselves do if the significand of `x` is even. On the grid of decimals with a given
number of digits it is enough to try the two neighbours of `x`: if any grid point lies in that
interval, one of these does.
-/

namespace Galley.Decimal

/-- A decimal: a natural number scaled by a power of ten. -/
structure Scaled where
  digits : Nat
  exponent : Int
  deriving Repr, DecidableEq

/-- A scaled decimal as a quotient of natural numbers. -/
def Scaled.toRatio (d : Scaled) : Nat × Nat :=
  if 0 ≤ d.exponent then (d.digits * Nat.pow 10 d.exponent.toNat, 1)
  else (d.digits, Nat.pow 10 (-d.exponent).toNat)

/-- Whether one quotient is less than another. -/
def ratioLt (a b : Nat × Nat) : Bool := a.1 * b.2 < b.1 * a.2

/-- The ends of the interval that reads as `x`. Below a power of two the neighbour is only half as
far away as above it. -/
def interval (x : Binary64) : (Nat × Nat) × (Nat × Nat) :=
  let m := x.significand
  let below := if m = Binary64.binade ∧ Binary64.minExponent < x.exponent then 4 * m - 1
    else 4 * m - 2
  let scale (n : Nat) : Nat × Nat := Binary64.scaleDown n 4 (-x.exponent)
  (scale below, scale (4 * m + 2))

/-- Whether a decimal reads as `x`. -/
def readsAs (x : Binary64) (d : Scaled) : Bool :=
  let (low, high) := interval x
  let r := d.toRatio
  if x.significand % 2 = 0 then !ratioLt r low && !ratioLt high r
  else ratioLt low r && ratioLt r high

/-- The distance of two quotients, scaled by the product of their denominators. -/
def gap (a b : Nat × Nat) : Nat := (a.1 * b.2 - b.1 * a.2) + (b.1 * a.2 - a.1 * b.2)

/-- The largest power of ten that is not above a positive quotient. -/
def leadingExponent (r : Nat × Nat) : Int :=
  let guess : Int := ((Nat.log2 r.1 : Int) - Nat.log2 r.2) * 30103 / 100000
  let fits (k : Int) : Bool :=
    !ratioLt r (Scaled.mk 1 k).toRatio && ratioLt r (Scaled.mk 1 (k + 1)).toRatio
  ([guess - 1, guess, guess + 1].find? fits).getD guess

/-- The decimal of a grid, with steps of `10 ^ exponent`, that reads as `x` and is nearest to it;
of two equally near ones the even one. -/
def onGrid (x : Binary64) (exponent : Int) : Option Scaled :=
  let r := x.toRatio
  let steps := if 0 ≤ exponent then (r.1, r.2 * Nat.pow 10 exponent.toNat)
    else (r.1 * Nat.pow 10 (-exponent).toNat, r.2)
  let low : Scaled := ⟨steps.1 / steps.2, exponent⟩
  let high : Scaled := ⟨steps.1 / steps.2 + 1, exponent⟩
  match readsAs x low, readsAs x high with
  | true, false => some low
  | false, true => some high
  | false, false => none
  | true, true =>
    let below := gap r low.toRatio * high.toRatio.2
    let above := gap r high.toRatio * low.toRatio.2
    if below < above then some low
    else if above < below then some high
    else if low.digits % 2 = 0 then some low else some high

/-- Removes zeros from the end of the digits; the fuel bounds their number. -/
def trimZeros : (fuel : Nat) → Scaled → Scaled
  | 0, d => d
  | fuel + 1, d =>
    if d.digits ≠ 0 ∧ d.digits % 10 = 0 then trimZeros fuel ⟨d.digits / 10, d.exponent + 1⟩ else d

/-- The decimal with the fewest digits that reads back as `x`. Seventeen digits always do. -/
def shortest (x : Binary64) : Scaled :=
  if x.rank = 0 then ⟨0, 0⟩
  else
    let lead := leadingExponent x.toRatio
    let found := (List.range 17).findSome? fun count : Nat => onGrid x (lead - count)
    trimZeros 20 (found.getD ⟨x.significand, 0⟩)

end Galley.Decimal
