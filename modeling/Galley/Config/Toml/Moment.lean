import Galley.Text.Digits
import Galley.Time.Instant

/-!
# Dates and times in TOML

A *moment* is a date, a time of day, or both, and both may have a zone. `print` writes it the one
way that settings show it: `T` between date and time, no zeros at the end of a fraction, and a zone
as hours and minutes, unless it is `Z`. `read?` reads a moment from a text that is nothing else.
-/

namespace Galley.Config.Toml

/-- A date. -/
structure Date where
  year : Nat
  month : Nat
  day : Nat
  deriving DecidableEq, Repr

/-- A time of day. -/
structure TimeOfDay where
  hour : Nat
  minute : Nat
  second : Nat
  nanos : Nat
  deriving DecidableEq, Repr

/-- A zone: that of Greenwich, or so many minutes ahead of it. -/
inductive Zone where
  | utc
  | ahead (minutes : Int)
  deriving DecidableEq, Repr

/-- A date, a time of day, or both. -/
structure Moment where
  date : Option Date
  time : Option TimeOfDay
  zone : Option Zone
  deriving DecidableEq, Repr

namespace Moment

-- ---------------------------------------------------------------------------
-- Printing
-- ---------------------------------------------------------------------------

/-- A number with zeros before it, to a width. -/
def padded (width n : Nat) : List Char :=
  let digits := Nat.toDigits 10 n
  List.replicate (width - digits.length) '0' ++ digits

/-- A fraction of a second, with a point before it, unless it is zero. -/
def printFraction (nanos : Nat) : List Char :=
  if nanos = 0 then []
  else '.' :: ((padded 9 nanos).reverse.dropWhile (· == '0')).reverse

/-- The written form of a date. -/
def printDate (d : Date) : List Char :=
  padded 4 d.year ++ '-' :: padded 2 d.month ++ '-' :: padded 2 d.day

/-- The written form of a time of day. -/
def printTime (t : TimeOfDay) : List Char :=
  padded 2 t.hour ++ ':' :: padded 2 t.minute ++ ':' :: padded 2 t.second ++ printFraction t.nanos

/-- The written form of a zone. -/
def printZone : Zone → List Char
  | .utc => ['Z']
  | .ahead minutes =>
    (if minutes < 0 then '-' else '+') :: padded 2 (minutes.natAbs / 60)
      ++ ':' :: padded 2 (minutes.natAbs % 60)

/-- The written form of a moment. -/
def print (m : Moment) : String :=
  let date := (m.date.map printDate).getD []
  let time := (m.time.map printTime).getD []
  let zone := (m.zone.map printZone).getD []
  String.ofList (date ++ (if m.date.isSome && m.time.isSome then ['T'] else []) ++ time ++ zone)

-- ---------------------------------------------------------------------------
-- Reading
-- ---------------------------------------------------------------------------

/-- Reads so many digits: their number, and the text after them. -/
def readDigits? (count : Nat) (cs : List Char) : Option (Nat × List Char) :=
  let digits := cs.take count
  if digits.length = count ∧ digits.all Char.isDigit then
    some (Text.decimalValue digits, cs.drop count)
  else none

/-- The text after a character. -/
def pass (mark : Char) : List Char → Option (List Char)
  | c :: cs => if c = mark then some cs else none
  | [] => none

/-- Reads a date. -/
def readDate? (cs : List Char) : Option (Date × List Char) := do
  let (year, cs) ← readDigits? 4 cs
  let (month, cs) ← readDigits? 2 (← pass '-' cs)
  let (day, cs) ← readDigits? 2 (← pass '-' cs)
  if 1 ≤ month ∧ month ≤ 12 ∧ 1 ≤ day ∧ day ≤ Instant.daysInMonth year month then
    some (⟨year, month, day⟩, cs)
  else none

/-- Reads a fraction of a second, of which nine digits count. -/
def readFraction? : List Char → Option (Nat × List Char)
  | '.' :: cs =>
    let digits := cs.takeWhile Char.isDigit
    if digits.isEmpty then none
    else
      let counted := digits.take 9
      some (Text.decimalValue (counted ++ List.replicate (9 - counted.length) '0'),
        cs.drop digits.length)
  | cs => some (0, cs)

/-- Reads a time of day. -/
def readTime? (cs : List Char) : Option (TimeOfDay × List Char) := do
  let (hour, cs) ← readDigits? 2 cs
  let (minute, cs) ← readDigits? 2 (← pass ':' cs)
  let (second, cs) ← readDigits? 2 (← pass ':' cs)
  let (nanos, cs) ← readFraction? cs
  if hour ≤ 24 ∧ minute ≤ 59 ∧ second ≤ 60 then some (⟨hour, minute, second, nanos⟩, cs) else none

/-- Reads the zone that makes up a text. None is further than a day away. -/
def readZone? : List Char → Option (Option Zone)
  | [] => some none
  | ['Z'] => some (some .utc)
  | ['z'] => some (some .utc)
  | sign :: cs =>
    if sign = '+' ∨ sign = '-' then do
      let (hours, cs) ← readDigits? 2 cs
      let (minutes, cs) ← readDigits? 2 (← pass ':' cs)
      let total := 60 * hours + minutes
      if cs.isEmpty ∧ total ≤ 1440 then
        some (some (.ahead (if sign = '-' then -(total : Int) else total)))
      else none
    else none

/-- Reads a moment that makes up a text. Only a date with a time has a zone. -/
def read? (text : String) : Option Moment :=
  let cs := text.toList
  if cs[2]? = some ':' then do
    let (time, cs) ← readTime? cs
    if cs.isEmpty then some ⟨none, some time, none⟩ else none
  else do
    let (date, cs) ← readDate? cs
    match cs with
    | [] => some ⟨some date, none, none⟩
    | c :: cs =>
      if c = 'T' ∨ c = 't' ∨ c = ' ' then do
        let (time, cs) ← readTime? cs
        return ⟨some date, some time, ← readZone? cs⟩
      else none

end Moment

end Galley.Config.Toml
