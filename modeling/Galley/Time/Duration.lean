import Galley.Text.Blank
import Galley.Text.Digits
import Galley.Word

/-!
# Durations

A length of time in nanoseconds. It is read from numbers with units, such as `1h 30m` or `1.5s`,
which are added up, and it is shown in the largest unit that does not make it less than one.
-/

namespace Galley

/-- A length of time. -/
structure Duration where
  nanos : Nat
  deriving DecidableEq, Repr

namespace Duration

instance : Inhabited Duration := ⟨⟨0⟩⟩

/-- A number of milliseconds. -/
def ofMillis (n : Nat) : Duration := ⟨n * 1000000⟩

/-- A number of seconds. -/
def ofSeconds (n : Nat) : Duration := ⟨n * 1000000000⟩

/-- The number of whole seconds. -/
def seconds (d : Duration) : Nat := d.nanos / 1000000000

/-- The nanoseconds beyond the whole seconds. -/
def subsecond (d : Duration) : Nat := d.nanos % 1000000000

-- ---------------------------------------------------------------------------
-- Showing
-- ---------------------------------------------------------------------------

/-- The digits of a fraction that has `width` places, without trailing zeros. -/
def fractionDigits : (width fraction : Nat) → List Char
  | 0, _ => []
  | width + 1, fraction =>
    if fraction = 0 then []
    else
      Nat.digitChar (fraction / Nat.pow 10 width) ::
        fractionDigits width (fraction % Nat.pow 10 width)

/-- A number of nanoseconds as a multiple of a unit of `10 ^ width` nanoseconds. -/
def showIn (unit : String) (width nanos : Nat) : String :=
  let fraction := fractionDigits width (nanos % Nat.pow 10 width)
  toString (nanos / Nat.pow 10 width)
    ++ (if fraction.isEmpty then "" else "." ++ String.ofList fraction) ++ unit

/-- The duration as a message shows it. -/
def toText (d : Duration) : String :=
  if 1000000000 ≤ d.nanos then showIn "s" 9 d.nanos
  else if 1000000 ≤ d.nanos then showIn "ms" 6 d.nanos
  else if 1000 ≤ d.nanos then showIn "µs" 3 d.nanos
  else showIn "ns" 0 d.nanos

-- ---------------------------------------------------------------------------
-- Reading
-- ---------------------------------------------------------------------------

/-- The nanoseconds of a unit. A month has 30.44 days and a year 365.25. -/
def unitNanos (unit : String) : Option Nat :=
  if unit ∈ ["nanos", "nsec", "ns"] then some 1
  else if unit ∈ ["usec", "us", "µs"] then some 1000
  else if unit ∈ ["millis", "msec", "ms"] then some 1000000
  else if unit ∈ ["seconds", "second", "secs", "sec", "s"] then some 1000000000
  else if unit ∈ ["minutes", "minute", "min", "mins", "m"] then some 60000000000
  else if unit ∈ ["hours", "hour", "hr", "hrs", "h"] then some 3600000000000
  else if unit ∈ ["days", "day", "d"] then some 86400000000000
  else if unit ∈ ["weeks", "week", "wk", "wks", "w"] then some 604800000000000
  else if unit ∈ ["months", "month", "M"] then some 2630016000000000
  else if unit ∈ ["years", "year", "yr", "yrs", "y"] then some 31557600000000000
  else none

/-- Whether a unit can be written with a character. -/
def isUnitChar (c : Char) : Bool := c.isAlpha || c == 'µ'

/-- A number, or nothing if a word cannot hold it. -/
def inWord (n : Nat) : Option Nat := if n < Word.values64 then some n else none

/-- Reads the digits after a point up to the unit: a fraction, and the text at the unit. Blanks
between digits do not count. -/
def readFraction (num den : Nat) : List Char → Option ((Nat × Nat) × List Char)
  | [] => if den = 1 then none else some ((num, den), [])
  | c :: cs =>
    if c.isDigit then do
      readFraction (← inWord (10 * num + Text.digitValue c)) (← inWord (10 * den)) cs
    else if isUnitChar c then if den = 1 then none else some ((num, den), c :: cs)
    else if Text.isBlank c then readFraction num den cs
    else none

/-- Reads the digits of a number after those that make `n`, and a fraction if there is one. -/
def readAmount (n : Nat) : List Char → Option (Nat × (Nat × Nat) × List Char)
  | [] => some (n, (0, 1), [])
  | c :: cs =>
    if c.isDigit then do readAmount (← inWord (10 * n + Text.digitValue c)) cs
    else if isUnitChar c then some (n, (0, 1), c :: cs)
    else if c = '.' then (readFraction 0 1 cs).map fun (fraction, cs) => (n, fraction, cs)
    else if Text.isBlank c then readAmount n cs
    else none

/-- The quotient of two numbers, if it is whole. -/
def exactQuotient (num den : Nat) : Option Nat :=
  if num % den = 0 then some (num / den) else none

/-- The duration longer by seconds and nanoseconds, if words can hold both sums. -/
def extend? (d : Duration) (seconds nanos : Nat) : Option Duration := do
  let nanos ← inWord (d.subsecond + nanos)
  let seconds ← inWord (d.seconds + seconds + nanos / 1000000000)
  return ⟨seconds * 1000000000 + nanos % 1000000000⟩

/-- The duration longer by an amount of a unit: a number and a fraction, which has to come out in
whole nanoseconds, or in whole seconds for units of an hour or more. -/
def extendBy? (d : Duration) (n num den unit : Nat) : Option Duration :=
  let second := 1000000000
  do
    let d ←
      if unit < second then d.extend? 0 (← inWord (n * unit))
      else d.extend? (← inWord (n * (unit / second))) 0
    if unit < 3600 * second then d.extend? 0 (← exactQuotient (← inWord (num * unit)) den)
    else d.extend? (← exactQuotient (← inWord (num * (unit / second))) den) 0

/-- Reads amounts with units and adds them up. The fuel bounds the length of the text. -/
def readAmounts : (fuel : Nat) → (sum : Duration) → List Char → Option Duration
  | 0, _, _ => none
  | fuel + 1, sum, cs =>
    match cs with
    | [] => some sum
    | c :: cs =>
      if Text.isBlank c then readAmounts fuel sum cs
      else if !c.isDigit then none
      else do
        let (n, (num, den), cs) ← readAmount (Text.digitValue c) cs
        let unit ← unitNanos (String.ofList (cs.takeWhile isUnitChar))
        let sum ← sum.extendBy? n num den unit
        match cs.dropWhile isUnitChar with
        | [] => some sum
        | c :: rest =>
          if c.isDigit ∨ Text.isBlank c then readAmounts fuel sum (c :: rest) else none

/-- Reads a duration. A number needs a unit, unless the text is just a zero. -/
def read? (text : String) : Option Duration :=
  if text = "0" then some ⟨0⟩
  else
    let cs := text.toList
    if cs.all Text.isBlank then none else readAmounts (cs.length + 1) ⟨0⟩ cs

end Duration

end Galley
