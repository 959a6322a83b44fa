import Galley.Text.Digits

/-!
# Letters of all scripts in ASCII

Punycode writes a text with any characters in ASCII. The ASCII characters of the text come first,
and a hyphen behind them. Then the others are told in the order of their numbers, each by one
number: how many states lie between it and the one before it, if a state is a character together
with a place in the text so far, and the states run through all places for a character before they
go on to the next.

These numbers are written with 36 digits, the lowest one first. How low a digit has to be so that it
ends its number depends on the numbers before it, so that short numbers are short.
-/

namespace Galley.Text.Punycode

/-- How many digits there are. -/
def base : Nat := 36

/-- The least digit that a last digit is compared with. -/
def leastBound : Nat := 1

/-- The greatest digit that a last digit is compared with. -/
def greatestBound : Nat := 26

/-- How fast bounds follow the numbers. -/
def skew : Nat := 38

/-- The first character that is not in ASCII. -/
def firstPoint : Nat := 0x80

/-- The bias before any number. -/
def firstBias : Nat := 72

/-- The digit below which a digit at a place ends its number. -/
def bound (place bias : Nat) : Nat := min (max (base * place - bias) leastBound) greatestBound

/-- Divides by the number of digits that can go on a number for as long as it is large; the result
is how often, and what remains. -/
def shrink (n : Nat) : Nat × Nat :=
  if _ : (base - leastBound) * greatestBound / 2 < n then
    let (times, rest) := shrink (n / (base - leastBound))
    (times + 1, rest)
  else (0, n)
termination_by n
decreasing_by
  simp only [base, leastBound, greatestBound] at *
  omega

/-- The bias behind a number, for a text of so many characters. -/
def adapt (number length : Nat) (isFirst : Bool) : Nat :=
  let number := if isFirst then number / 700 else number / 2
  let (times, rest) := shrink (number + number / length)
  base * times + base * rest / (rest + skew)

-- ---------------------------------------------------------------------------
-- Writing
-- ---------------------------------------------------------------------------

/-- A digit. -/
def digitChar (n : Nat) : Char :=
  if n < 26 then Char.ofNat ('a'.toNat + n) else Char.ofNat ('0'.toNat + (n - 26))

/-- Writes a number from some place on. -/
def writeFrom (bias place n : Nat) : List Char :=
  let t := bound place bias
  if _ : n < t then [digitChar n]
  else digitChar (t + (n - t) % (base - t)) :: writeFrom bias (place + 1) ((n - t) / (base - t))
termination_by n
decreasing_by
  have hLow : 1 ≤ bound place bias := by simp only [bound, leastBound, greatestBound]; omega
  have hHigh : bound place bias ≤ 26 := by simp only [bound, greatestBound]; omega
  have hDivisor : 10 ≤ base - bound place bias := by simp only [base]; omega
  calc (n - bound place bias) / (base - bound place bias)
      ≤ (n - bound place bias) / 10 := Nat.div_le_div_left hDivisor (by omega)
    _ < n := by omega

/-- Writes a number. -/
def write (bias n : Nat) : List Char := writeFrom bias 1 n

/-- Where writing stands: the digits so far, last first, the character that was told last, how many
states were passed since, the bias, and how many characters the text has so far. -/
structure Writing where
  digits : List Char
  point : Nat
  passed : Nat
  bias : Nat
  length : Nat

/-- Passes one character of the text, while the characters of a number are told. -/
def Writing.pass (plain point : Nat) (w : Writing) (c : Char) : Writing :=
  if c.toNat < point then { w with passed := w.passed + 1 }
  else if c.toNat = point then
    { w with
      digits := (write w.bias w.passed).reverse ++ w.digits
      passed := 0
      bias := adapt w.passed (w.length + 1) (w.length = plain)
      length := w.length + 1 }
  else w

/-- Tells all characters of a number. -/
def Writing.tell (cs : List Char) (plain : Nat) (w : Writing) (point : Nat) : Writing :=
  let passed := w.passed + (point - w.point) * (w.length + 1)
  let w := cs.foldl (Writing.pass plain point) { w with point := point, passed := passed }
  { w with point := w.point + 1, passed := w.passed + 1 }

/-- The numbers of the characters that are not in ASCII, in order. -/
def points (cs : List Char) : List Nat :=
  let all := (cs.map Char.toNat).filter (firstPoint ≤ ·)
  (all.mergeSort (· ≤ ·)).eraseReps

/-- A text in ASCII. -/
def encode (cs : List Char) : List Char :=
  let plain := cs.filter fun c => c.toNat < firstPoint
  let w := (points cs).foldl (Writing.tell cs plain.length)
    ⟨[], firstPoint, 0, firstBias, plain.length⟩
  plain ++ (if plain.isEmpty then [] else ['-']) ++ w.digits.reverse

-- ---------------------------------------------------------------------------
-- Reading
-- ---------------------------------------------------------------------------

/-- The value of a digit. -/
def digitValue? (c : Char) : Option Nat :=
  if c.isLower then some (c.toNat - 'a'.toNat)
  else if c.isUpper then some (c.toNat - 'A'.toNat)
  else if c.isDigit then some (26 + digitValue c)
  else none

/-- Where reading stands: the text so far, the character that was read last and the place behind it,
the bias, and of the number that is being read the place and the weight of its next digit and its
value so far. -/
structure Reading where
  text : List Char
  point : Nat
  index : Nat
  bias : Nat
  place : Nat
  weight : Nat
  value : Nat

/-- The character of a number. -/
def char? (n : Nat) : Option Char :=
  if n.isValidChar then some (Char.ofNat n) else none

/-- Puts in the character that a number tells. -/
def Reading.insert? (r : Reading) (number : Nat) : Option Reading := do
  let length := r.text.length + 1
  let state := r.index + number
  let point := r.point + state / length
  let c ← char? point
  let before := r.text.take (state % length)
  return {
    text := before ++ c :: r.text.drop (state % length)
    point := point
    index := state % length + 1
    bias := adapt number length (r.index = 0)
    place := 1
    weight := 1
    value := 0 }

/-- Takes a digit. -/
def Reading.step? (r : Reading) (c : Char) : Option Reading := do
  let digit ← digitValue? c
  let t := bound r.place r.bias
  let value := r.value + digit * r.weight
  if digit < t then r.insert? value
  else return { r with place := r.place + 1, weight := r.weight * (base - t), value := value }

/-- The text of a text in ASCII, if it is one. -/
def decode? (cs : List Char) : Option (List Char) := do
  let last := (cs.reverse.takeWhile (· != '-')).length
  let plain := cs.take (cs.length - last - 1)
  let digits := if plain.isEmpty then cs else cs.drop (cs.length - last)
  let r ← digits.foldlM Reading.step? ⟨plain, firstPoint, 0, firstBias, 1, 1, 0⟩
  if r.place = 1 then some r.text else none

end Galley.Text.Punycode
