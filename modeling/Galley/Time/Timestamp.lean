import Galley.Text.Blank
import Galley.Text.Bytes
import Galley.Text.Digits
import Galley.Time.Instant
import Galley.Word

/-!
# Timestamps

The written form of an instant: `2024-01-01T00:00:00Z`, with as many groups of three fraction
digits as it takes to lose nothing, a sign on years that do not have four digits, and the second
`60` for a leap second. `print` writes the zone as `Z`, `printWithOffset` as `+00:00`.

`read` is more lenient: it takes any zone and converts, one digit for two, blanks before each number
and around separators, and a blank or a small letter for the `T`.
-/

namespace Galley.Time

-- ---------------------------------------------------------------------------
-- Printing
-- ---------------------------------------------------------------------------

/-- A number in decimal, filled up with zeros to a width. -/
def padded (width n : Nat) : List Char :=
  let digits := Nat.toDigits 10 n
  List.replicate (width - digits.length) '0' ++ digits

/-- A year: four digits, or a sign and at least four digits. -/
def printYear (year : Int) : List Char :=
  if 0 ≤ year ∧ year ≤ 9999 then padded 4 year.toNat
  else (if year < 0 then '-' else '+') :: padded 4 year.natAbs

/-- The fraction of a second. -/
def printFraction (nano : Nat) : List Char :=
  if nano = 0 then []
  else if nano % 1000000 = 0 then '.' :: padded 3 (nano / 1000000)
  else if nano % 1000 = 0 then '.' :: padded 6 (nano / 1000)
  else '.' :: padded 9 nano

/-- The date of an instant. -/
def printDate (t : Instant) : List Char :=
  printYear t.year ++ '-' :: padded 2 t.month ++ '-' :: padded 2 t.day

/-- The second within the minute; in a leap second it is sixty. -/
def secondOfMinute (t : Instant) : Nat :=
  if t.nano < 1000000000 then t.second % 60 else t.second % 60 + 1

/-- The time of day of an instant, in whole seconds. -/
def printClock (t : Instant) : List Char :=
  padded 2 (t.second / 3600) ++ ':' :: padded 2 (t.second / 60 % 60)
    ++ ':' :: padded 2 (secondOfMinute t)

/-- An instant without its zone. -/
def printLocal (t : Instant) : List Char :=
  printDate t ++ 'T' :: printClock t ++ printFraction (t.nano % 1000000000)

/-- The written form of an instant. -/
def print (t : Instant) : String := String.ofList (printLocal t ++ ['Z'])

/-- The written form of an instant with its zone as an offset. -/
def printWithOffset (t : Instant) : String := String.ofList (printLocal t ++ "+00:00".toList)

/-- The date and the time of day of an instant, as a table shows them. -/
def printPlain (t : Instant) : String := String.ofList (printDate t ++ ' ' :: printClock t)

/-- The date and the time of day of an instant with milliseconds, as a table shows them. -/
def printPlainMillis (t : Instant) : String :=
  String.ofList
    (printDate t ++ ' ' :: printClock t ++ '.' :: padded 3 (t.nano % 1000000000 / 1000000))

-- ---------------------------------------------------------------------------
-- Reading
-- ---------------------------------------------------------------------------

/-- Why a text is no timestamp. -/
inductive ReadError where
  | tooShort
  | invalid
  | outOfRange
  | impossible
  | tooLong
  deriving Repr, DecidableEq

/-- The wording of an error. -/
def ReadError.message : ReadError → String
  | tooShort => "premature end of input"
  | invalid => "input contains invalid characters"
  | outOfRange => "input is out of range"
  | impossible => "no possible date and time matching input"
  | tooLong => "trailing input"

/-- Reads a number of at most `width` digits, or of any length. -/
def readNumber (width : Option Nat) (cs : List Char) :
    Except ReadError (Nat × Nat × List Char) :=
  match cs with
  | [] => .error .tooShort
  | c :: _ =>
    if c.isDigit then
      let run := cs.takeWhile Char.isDigit
      let digits := match width with
        | some width => run.take width
        | none => run
      let value := Text.decimalValue digits
      if value < Word.values63 then .ok (value, digits.length, cs.drop digits.length)
      else .error .outOfRange
    else .error .invalid

/-- Reads a two-digit field, after blanks, and checks its range. -/
def readField (low high : Nat) (cs : List Char) : Except ReadError (Nat × List Char) := do
  let (value, _, rest) ← readNumber (some 2) (Text.trimStart cs)
  if low ≤ value ∧ value ≤ high then return (value, rest) else throw .outOfRange

/-- Reads the number of a year, after blanks. With a sign it may have any number of digits. -/
def readSigned (cs : List Char) : Except ReadError (Int × List Char) :=
  match Text.trimStart cs with
  | '-' :: rest => (readNumber none rest).map fun (value, _, rest) => (-(value : Int), rest)
  | '+' :: rest => (readNumber none rest).map fun (value, _, rest) => ((value : Int), rest)
  | rest => (readNumber (some 4) rest).map fun (value, _, rest) => ((value : Int), rest)

/-- Reads a year, which has to fit in 32 bits. -/
def readYear (cs : List Char) : Except ReadError (Int × List Char) := do
  let (year, rest) ← readSigned cs
  if -(Word.values31 : Int) ≤ year ∧ year < Word.values31 then return (year, rest)
  else throw .outOfRange

/-- Passes over a separator, after blanks. -/
def readMark (mark : Char) (cs : List Char) : Except ReadError (List Char) :=
  match Text.trimStart cs with
  | [] => .error .tooShort
  | c :: rest => if c = mark then .ok rest else .error .invalid

/-- Reads a fraction, if there is one: nanoseconds, digits after the ninth dropped. -/
def readFraction (cs : List Char) : Except ReadError (Nat × List Char) :=
  match cs with
  | '.' :: rest => do
    let (value, count, rest) ← readNumber (some 9) rest
    return (value * Nat.pow 10 (9 - count), rest.dropWhile Char.isDigit)
  | cs => .ok (0, cs)

/-- Whether a text starts with `UTC`, in small or capital letters. -/
def startsWithUtc (cs : List Char) : Bool := (cs.take 3).map Char.toUpper == ['U', 'T', 'C']

/-- The number of bytes of a text, counted up to two. -/
def atLeastTwoBytes (cs : List Char) : Bool := 2 ≤ Text.byteLength cs

/-- Reads hours and minutes of an offset after its sign. -/
def readOffset (cs : List Char) : Except ReadError (Nat × List Char) := do
  let (hours, rest) ← match cs with
    | a :: b :: rest =>
      if a.isDigit ∧ b.isDigit then pure (Text.decimalValue [a, b], rest) else throw .invalid
    | cs => throw (if atLeastTwoBytes cs then .invalid else .tooShort)
  let rest := rest.dropWhile fun c => c == ':' || Text.isBlank c
  match rest with
  | a :: b :: rest =>
    if a.isDigit ∧ b.isDigit then
      if a ≤ '5' then return (hours * 3600 + Text.decimalValue [a, b] * 60, rest)
      else throw .outOfRange
    else throw .invalid
  | rest => throw (if atLeastTwoBytes rest then .invalid else .tooShort)

/-- Reads a zone: how many seconds its clocks are ahead of universal time. -/
def readZone (cs : List Char) : Except ReadError (Int × List Char) :=
  if startsWithUtc cs then .ok (0, cs.drop 3)
  else match cs with
    | [] => .error .tooShort
    | 'Z' :: rest => .ok (0, rest)
    | 'z' :: rest => .ok (0, rest)
    | c :: rest =>
      if c = '+' then (readOffset rest).map fun (n, rest) => (n, rest)
      else if c = '-' ∨ c = '\u2212' then (readOffset rest).map fun (n, rest) => (-(n : Int), rest)
      else .error .invalid

/-- Reads a timestamp. -/
def read (text : String) : Except ReadError Instant := do
  let (year, cs) ← readYear text.toList
  let cs ← readMark '-' cs
  let (month, cs) ← readField 1 12 cs
  let cs ← readMark '-' cs
  let (day, cs) ← readField 1 31 cs
  let cs ← match cs with
    | [] => throw .tooShort
    | c :: rest => if c = 'T' ∨ c = 't' ∨ c = ' ' then pure rest else throw .invalid
  let (hour, cs) ← readField 0 23 cs
  let cs ← readMark ':' cs
  let (minute, cs) ← readField 0 59 cs
  let cs ← readMark ':' cs
  let (second, cs) ← readField 0 60 cs
  let (nano, cs) ← readFraction cs
  let (offset, cs) ← readZone (Text.trimStart cs)
  if Text.trimStart cs ≠ [] then throw .tooLong
  let (second, nano) := if second = 60 then (59, nano + 1000000000) else (second, nano)
  match Instant.ofFields? year month day (hour * 3600 + minute * 60 + second) nano with
  | none => throw .outOfRange
  | some shown =>
    if offset.natAbs < 86400 then
      match shown.ofLocal offset with
      | some t => return t
      | none => throw .impossible
    else throw .outOfRange

end Galley.Time
