/-!
# Instants

An instant is a date of the proleptic Gregorian calendar and a time of day, both in universal time,
down to the nanosecond. A leap second is the last second of a minute with more than a thousand
million nanoseconds. Instants are ordered field by field, from the year down.
-/

namespace Galley

namespace Instant

/-- Whether a year has 366 days. -/
def isLeapYear (year : Int) : Bool := year % 4 == 0 && (year % 100 != 0 || year % 400 == 0)

/-- The number of days of a month. -/
def daysInMonth (year : Int) (month : Nat) : Nat :=
  if month = 2 then (if isLeapYear year then 29 else 28)
  else if month = 4 ∨ month = 6 ∨ month = 9 ∨ month = 11 then 30
  else 31

/-- The first year of the calendar. -/
def minYear : Int := -262143

/-- The last year of the calendar. -/
def maxYear : Int := 262142

/-- Whether a year, month and day are a date of the calendar. -/
def IsDate (year : Int) (month day : Nat) : Prop :=
  minYear ≤ year ∧ year ≤ maxYear ∧ 1 ≤ month ∧ month ≤ 12 ∧ 1 ≤ day ∧ day ≤ daysInMonth year month

/-- Whether a second of the day and its nanoseconds are a time; only the last second of a minute
can be a leap second. -/
def IsTime (second nano : Nat) : Prop :=
  second < 86400 ∧ (nano < 1000000000 ∨ (second % 60 = 59 ∧ nano < 2000000000))

instance (year : Int) (month day : Nat) : Decidable (IsDate year month day) :=
  inferInstanceAs (Decidable (_ ∧ _))

instance (second nano : Nat) : Decidable (IsTime second nano) :=
  inferInstanceAs (Decidable (_ ∧ _))

end Instant

/-- An instant in universal time. -/
structure Instant where
  year : Int
  month : Nat
  day : Nat
  second : Nat
  nano : Nat
  date : Instant.IsDate year month day
  time : Instant.IsTime second nano
  deriving DecidableEq

namespace Instant

instance : Inhabited Instant := ⟨⟨1970, 1, 1, 0, 0, by decide, by decide⟩⟩

/-- The instant with the given fields, if they are a date and a time. -/
def ofFields? (year : Int) (month day second nano : Nat) : Option Instant :=
  if date : IsDate year month day then
    if time : IsTime second nano then some ⟨year, month, day, second, nano, date, time⟩ else none
  else none

/-- The same time on the day before, if the calendar has it. -/
def previousDay (t : Instant) : Option Instant :=
  if 1 < t.day then ofFields? t.year t.month (t.day - 1) t.second t.nano
  else if 1 < t.month then
    ofFields? t.year (t.month - 1) (daysInMonth t.year (t.month - 1)) t.second t.nano
  else ofFields? (t.year - 1) 12 31 t.second t.nano

/-- The same time on the day after, if the calendar has it. -/
def nextDay (t : Instant) : Option Instant :=
  if t.day < daysInMonth t.year t.month then
    ofFields? t.year t.month (t.day + 1) t.second t.nano
  else if t.month < 12 then ofFields? t.year (t.month + 1) 1 t.second t.nano
  else ofFields? (t.year + 1) 1 1 t.second t.nano

/-- The instant at which a clock that is `offset` seconds ahead shows the given time. The offset is
less than a day. -/
def ofLocal (shown : Instant) (offset : Int) : Option Instant :=
  let second : Int := shown.second - offset
  let at_ (day : Option Instant) (second : Int) : Option Instant :=
    day.bind fun t => ofFields? t.year t.month t.day second.toNat t.nano
  if second < 0 then at_ shown.previousDay (second + 86400)
  else if 86400 ≤ second then at_ shown.nextDay (second - 86400)
  else at_ (some shown) second

/-- The instant that is so many seconds and nanoseconds after the start of 1970, if the calendar has
it. The count of days is taken from the first of March of the year zero, so that a leap day is the
last day of its year. -/
def ofEpoch? (seconds nano : Nat) : Option Instant :=
  let days := seconds / 86400 + 719468
  let day := days % 146097
  let year := (day - day / 1460 + day / 36524 - day / 146096) / 365
  let day := day - (365 * year + year / 4 - year / 100)
  let month := (5 * day + 2) / 153
  let day := day - (153 * month + 2) / 5 + 1
  let year := year + 400 * (days / 146097)
  if month < 10 then ofFields? year (month + 3) day (seconds % 86400) nano
  else ofFields? (year + 1) (month - 9) day (seconds % 86400) nano

/-- The fields of an instant in the order in which they are compared. -/
def key (t : Instant) : List Int := [t.year, t.month, t.day, t.second, t.nano]

/-- Compares two instants. -/
def compare (a b : Instant) : Ordering := Ord.compare a.key b.key

instance : Ord Instant := ⟨compare⟩

end Instant

end Galley
