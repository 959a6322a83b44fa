import Galley.Decimal.Shortest
import Galley.Text.Digits
import Galley.Word

/-!
# Binary numbers with infinities

A binary number may also be infinite, or no number at all. `read?` reads one from a decimal or from
a word, and `toText` writes it in positional notation.
-/

namespace Galley.Decimal

/-- A binary number that may be infinite or no number at all. -/
inductive Extended where
  | finite (value : Binary64)
  | infinite (negative : Bool)
  | undefined
  deriving Repr, DecidableEq

/-- The binary number nearest to a decimal one. -/
def Extended.ofScaled (negative : Bool) (digits : Nat) (exponent : Int) : Extended :=
  let x :=
    if digits = 0 then some ⟨negative, 0⟩
    else if 400 < exponent then none
    else if exponent < -20000 then some ⟨negative, 0⟩
    else if 0 ≤ exponent then Binary64.ofRatio negative (digits * Nat.pow 10 exponent.toNat) 1
    else Binary64.ofRatio negative digits (Nat.pow 10 (-exponent).toNat)
  match x with
  | some x => .finite x
  | none => .infinite negative

/-- The binary number nearest to an integer. -/
def Extended.ofInt (n : Int) : Extended := .ofScaled (n < 0) n.natAbs 0

/-- The whole number nearest to a binary one, a half away from zero, within the range of a word. -/
def Extended.toWord : Extended → Nat
  | .finite x =>
    if x.negative then 0
    else
      let (num, den) := x.toRatio
      min ((2 * num + den) / (2 * den)) (Word.values64 - 1)
  | .infinite negative => if negative then 0 else Word.values64 - 1
  | .undefined => 0

/-- The digits of a decimal number in positional notation, without a fraction if it is whole. -/
def positional (d : Scaled) : List Char :=
  let digits := Nat.toDigits 10 d.digits
  if 0 ≤ d.exponent then digits ++ List.replicate d.exponent.toNat '0'
  else
    let places := (-d.exponent).toNat
    if places < digits.length then
      digits.take (digits.length - places) ++ '.' :: digits.drop (digits.length - places)
    else '0' :: '.' :: List.replicate (places - digits.length) '0' ++ digits

/-- A binary number as text. -/
def Extended.toText : Extended → String
  | .finite x =>
    let body := if x.rank = 0 then ['0'] else positional (shortest x)
    String.ofList (if x.negative then '-' :: body else body)
  | .infinite negative => if negative then "-inf" else "inf"
  | .undefined => "NaN"

namespace Extended

/-- The exponent that a text after its mark writes. -/
def exponent? (cs : List Char) : Option Int :=
  match cs with
  | '-' :: cs => (Text.readDecimal? cs).map fun n => -(n : Int)
  | cs => (Text.readNatural? cs).map fun n => (n : Int)

/-- The binary number whose magnitude a text without a sign writes. -/
def readMagnitude? (negative : Bool) (cs : List Char) : Option Extended :=
  let word := String.ofList (cs.map Char.toLower)
  if word ∈ ["inf", "infinity"] then some (.infinite negative)
  else if word = "nan" then some .undefined
  else
    let whole := cs.takeWhile Char.isDigit
    let (fraction, rest) := match cs.dropWhile Char.isDigit with
      | '.' :: rest => (rest.takeWhile Char.isDigit, rest.dropWhile Char.isDigit)
      | rest => ([], rest)
    let scale := match rest with
      | [] => some 0
      | 'e' :: rest => exponent? rest
      | 'E' :: rest => exponent? rest
      | _ => none
    do
      let digits ← Text.readDecimal? (whole ++ fraction)
      return .ofScaled negative digits ((← scale) - fraction.length)

/-- The binary number that a text writes. -/
def read? : List Char → Option Extended
  | '-' :: cs => readMagnitude? true cs
  | '+' :: cs => readMagnitude? false cs
  | cs => readMagnitude? false cs

end Extended

end Galley.Decimal
