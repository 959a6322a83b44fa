import Mathlib.Algebra.Group.Nat.Defs
import Galley.Time.Timestamp
import Galley.Proofs.Text.Digits

/-!
# Timestamps read back

Every instant of the calendar is read back from its written form, down to the nanosecond, in a leap
second and in years before the first and after the last of four digits. The reading is told field by
field: each field is digits that end where the next separator stands.

Main results:

* `readNumber_digits` — a number is read up to the first character that is no digit.
* `readYear_print`, `readFraction_print` — the two fields of varying width.
* `read_print` — an instant is read back.
-/

namespace Galley.Time

-- ---------------------------------------------------------------------------
-- Padded numbers
-- ---------------------------------------------------------------------------

theorem isDigit_of_mem_padded {width n : Nat} {c : Char} (h : c ∈ padded width n) :
    c.isDigit = true := by
  rcases List.mem_append.mp h with h | h
  · rw [List.eq_of_mem_replicate h]
    rfl
  · exact Text.isDigit_of_mem_toDigits h

/-- Filling up does not change the value. -/
theorem decimalValue_padded (width n : Nat) : Text.decimalValue (padded width n) = n := by
  rw [padded, Text.decimalValue_zeros, Text.decimalValue_toDigits]

theorem padded_ne_nil (width n : Nat) : padded width n ≠ [] := by
  intro h
  exact Nat.toDigits_ne_nil (List.append_eq_nil_iff.mp h).2

/-- A number that fits the width takes just the width. -/
theorem length_padded {width n : Nat} (hWidth : 0 < width) (h : n < 10 ^ width) :
    (padded width n).length = width := by
  have := (Nat.length_toDigits_le_iff (by decide) hWidth).mpr h
  rw [padded, List.length_append, List.length_replicate]
  omega

theorem fits_word {n : Nat} (h : n < 1000000000) : n < Word.values63 := by
  unfold Word.values63
  omega

/-- A digit is no blank. -/
theorem not_blank_of_isDigit {c : Char} (h : c.isDigit = true) : Text.isBlank c = false := by
  simp only [Char.isDigit, ge_iff_le, Bool.and_eq_true, decide_eq_true_eq, UInt32.le_iff_toNat_le]
    at h
  have hLow : 48 ≤ c.toNat := h.1
  have hHigh : c.toNat ≤ 57 := h.2
  simp only [Text.isBlank, Bool.or_eq_false_iff, Bool.and_eq_false_iff, decide_eq_false_iff_not,
    beq_eq_false_iff_ne]
  omega

theorem trimStart_cons {c : Char} (hc : Text.isBlank c = false) (cs : List Char) :
    Text.trimStart (c :: cs) = c :: cs := by
  simp [Text.trimStart, hc]

/-- Nothing is trimmed off a number. -/
theorem trimStart_digits {digits : List Char} (hDigits : ∀ c ∈ digits, c.isDigit = true)
    (hSome : digits ≠ []) (rest : List Char) :
    Text.trimStart (digits ++ rest) = digits ++ rest := by
  obtain ⟨c, cs, rfl⟩ := List.exists_cons_of_ne_nil hSome
  exact trimStart_cons (not_blank_of_isDigit (hDigits c List.mem_cons_self)) _

-- ---------------------------------------------------------------------------
-- Fields
-- ---------------------------------------------------------------------------

/-- **A number is read up to the first character that is no digit**, unless it is wider than
asked. -/
theorem readNumber_digits (width : Option Nat) {digits rest : List Char}
    (hDigits : ∀ c ∈ digits, c.isDigit = true) (hSome : digits ≠ [])
    (hWidth : ∀ w ∈ width, digits.length ≤ w)
    (hValue : Text.decimalValue digits < Word.values63)
    (hRest : ∀ c ∈ rest.head?, c.isDigit = false) :
    readNumber width (digits ++ rest) =
      .ok (Text.decimalValue digits, digits.length, rest) := by
  obtain ⟨hTake, -⟩ := Text.span_digits hDigits hRest
  have hDrop : (digits ++ rest).drop digits.length = rest := List.drop_left
  obtain ⟨c, cs, rfl⟩ := List.exists_cons_of_ne_nil hSome
  rw [List.cons_append] at hTake hDrop ⊢
  rw [readNumber]
  simp only [hDigits c List.mem_cons_self, if_true, hTake]
  cases width with
  | none => simp only [hValue, if_true, hDrop]
  | some w =>
    have hRun : (c :: cs).take w = c :: cs := List.take_of_length_le (hWidth w rfl)
    simp only [hRun, hValue, if_true, hDrop]

/-- A padded number is read back. -/
theorem readNumber_padded (width : Option Nat) {w n : Nat} (hw : 0 < w) (hn : n < 10 ^ w)
    (hSmall : n < Word.values63) (hWidth : ∀ v ∈ width, w ≤ v) {rest : List Char}
    (hRest : ∀ c ∈ rest.head?, c.isDigit = false) :
    readNumber width (padded w n ++ rest) = .ok (n, w, rest) := by
  have hLength := length_padded hw hn
  have hRead := readNumber_digits width (fun _ h => isDigit_of_mem_padded h)
    (padded_ne_nil w n) (by rwa [hLength]) (by rwa [decimalValue_padded]) hRest
  rwa [decimalValue_padded, hLength] at hRead

/-- A two-digit field is read back. -/
theorem readField_padded {low high n : Nat} (hLow : low ≤ n) (hHigh : n ≤ high) (hn : n < 100)
    (rest : List Char) (hRest : ∀ c ∈ rest.head?, c.isDigit = false) :
    readField low high (padded 2 n ++ rest) = .ok (n, rest) := by
  have hRead := readNumber_padded (some 2) (by decide : 0 < 2) hn
    (fits_word (by omega)) (by simp) hRest
  rw [readField, trimStart_digits (fun _ h => isDigit_of_mem_padded h) (padded_ne_nil 2 n), hRead]
  show (if low ≤ n ∧ n ≤ high then _ else _) = _
  rw [if_pos ⟨hLow, hHigh⟩]
  rfl

/-- A year is read if its number fits. -/
theorem readYear_of_signed {cs rest : List Char} {year : Int}
    (hSigned : readSigned cs = .ok (year, rest))
    (hRange : -(Word.values31 : Int) ≤ year ∧ year < Word.values31) :
    readYear cs = .ok (year, rest) := by
  rw [readYear, hSigned]
  exact if_pos hRange

/-- A year without a sign is read back. -/
theorem readSigned_plain {n : Nat} (hn : n < 10 ^ 4) (rest : List Char) :
    readSigned (padded 4 n ++ '-' :: rest) = .ok ((n : Int), '-' :: rest) := by
  have hHyphen : ∀ c ∈ ('-' :: rest).head?, c.isDigit = false := by simp
  have hRead := readNumber_padded (some 4) (by decide : 0 < 4) hn (fits_word (by omega)) (by simp)
    hHyphen
  have hTrim := trimStart_digits (fun _ h => isDigit_of_mem_padded h) (padded_ne_nil 4 n)
    ('-' :: rest)
  obtain ⟨c, cs, hDigits⟩ := List.exists_cons_of_ne_nil (padded_ne_nil 4 n)
  have hFirst : c.isDigit = true :=
    isDigit_of_mem_padded (by rw [hDigits]; exact List.mem_cons_self)
  rw [readSigned, hTrim]
  rw [hDigits, List.cons_append] at hRead ⊢
  split
  · next h => exact absurd hFirst (by rw [(List.cons.inj h).1]; decide)
  · next h => exact absurd hFirst (by rw [(List.cons.inj h).1]; decide)
  · rw [hRead]
    rfl

/-- The digits of a year with a sign are read back. -/
theorem readNumber_year {n : Nat} (hn : n < 1000000000) (rest : List Char) :
    readNumber none (padded 4 n ++ '-' :: rest) = .ok (n, (padded 4 n).length, '-' :: rest) := by
  have hHyphen : ∀ c ∈ ('-' :: rest).head?, c.isDigit = false := by simp
  have hRead := readNumber_digits none (fun _ h => isDigit_of_mem_padded h) (padded_ne_nil 4 n)
    (by simp) (by rw [decimalValue_padded]; exact fits_word hn) hHyphen
  rwa [decimalValue_padded] at hRead

/-- **A year is read back**, with its sign if it has one. -/
theorem readYear_print {year : Int} (hLow : Instant.minYear ≤ year) (hHigh : year ≤ Instant.maxYear)
    (rest : List Char) :
    readYear (printYear year ++ '-' :: rest) = .ok (year, '-' :: rest) := by
  unfold Instant.minYear at hLow
  unfold Instant.maxYear at hHigh
  have hSmall : year.natAbs < 1000000000 := by omega
  refine readYear_of_signed ?_ (by unfold Word.values31; omega)
  rw [printYear]
  split
  · next hPlain =>
    rw [readSigned_plain (by omega), Int.toNat_of_nonneg hPlain.1]
  split
  · next hNegative =>
    have hValue : -(year.natAbs : Int) = year := by omega
    rw [List.cons_append, readSigned, trimStart_cons (by decide)]
    simp only [readNumber_year hSmall, Except.map, hValue]
  · next hPositive =>
    have hValue : (year.natAbs : Int) = year := by omega
    rw [List.cons_append, readSigned, trimStart_cons (by decide)]
    simp only [readNumber_year hSmall, Except.map, hValue]

/-- **The fraction of a second is read back.** -/
theorem readFraction_print {nano : Nat} (hNano : nano < 1000000000) {rest : List Char}
    (hRest : ∀ c ∈ rest.head?, c.isDigit = false ∧ c ≠ '.') :
    readFraction (printFraction nano ++ rest) = .ok (nano, rest) := by
  have hNoDigit : ∀ c ∈ rest.head?, c.isDigit = false := fun c hc => (hRest c hc).1
  -- however many digits are printed, they count nanoseconds of their width
  have hDigits : ∀ w n : Nat, 0 < w → n < 10 ^ w → w ≤ 9 → n * 10 ^ (9 - w) = nano →
      readFraction ('.' :: padded w n ++ rest) = .ok (nano, rest) := by
    intro w n hw hn hMax hScaled
    have hLe : n ≤ n * 10 ^ (9 - w) := Nat.le_mul_of_pos_right n (Nat.pow_pos (by decide))
    have hRead := readNumber_padded (some 9) hw hn (fits_word (by omega))
      (by simpa using hMax) hNoDigit
    have hDrop : rest.dropWhile Char.isDigit = rest :=
      (@Text.span_digits [] rest (by simp) hNoDigit).2
    rw [List.cons_append, readFraction]
    simp only [hRead, bind, Except.bind, pure, Except.pure, hDrop]
    rw [show n * Nat.pow 10 (9 - w) = nano from hScaled]
  rw [printFraction]
  split
  · next hZero =>
    rw [hZero, List.nil_append, readFraction.eq_def]
    split
    · next h => exact absurd rfl (hRest '.' rfl).2
    · rfl
  split
  · exact hDigits 3 (nano / 1000000) (by decide) (by omega) (by decide) (by omega)
  split
  · exact hDigits 6 (nano / 1000) (by decide) (by omega) (by decide) (by omega)
  · exact hDigits 9 nano (by decide) (by omega) (by decide) (by omega)

-- ---------------------------------------------------------------------------
-- Instants
-- ---------------------------------------------------------------------------

theorem ofFields?_self (t : Instant) :
    Instant.ofFields? t.year t.month t.day t.second t.nano = some t := by
  rw [Instant.ofFields?, dif_pos t.date, dif_pos t.time]

/-- A clock that shows universal time shows the instant. -/
theorem ofLocal_zero (t : Instant) : t.ofLocal 0 = some t := by
  have hSecond := t.time.1
  rw [Instant.ofLocal]
  simp only [Int.sub_zero, Int.toNat_natCast]
  rw [if_neg (by omega), if_neg (by omega)]
  exact ofFields?_self t

theorem readMark_cons {mark : Char} (hMark : Text.isBlank mark = false) (rest : List Char) :
    readMark mark (mark :: rest) = .ok rest := by
  rw [readMark, trimStart_cons hMark]
  exact if_pos rfl

/-- The seconds of a written time of day add up, with a leap second taken back. -/
theorem second_of_clock (t : Instant) :
    (if secondOfMinute t = 60 then (59, t.nano % 1000000000 + 1000000000)
      else (secondOfMinute t, t.nano % 1000000000)) = (t.second % 60, t.nano) := by
  obtain ⟨-, hNano⟩ := t.time
  rw [secondOfMinute]
  split
  · next hPlain => rw [if_neg (by omega), Nat.mod_eq_of_lt hPlain]
  · next hLeap =>
    have hLast : t.second % 60 = 59 := by omega
    have hRest : t.nano % 1000000000 + 1000000000 = t.nano := by omega
    rw [hLast, if_pos rfl, hRest]

/-- **A written instant is read back.** -/
theorem read_print (t : Instant) : read (print t) = .ok t := by
  obtain ⟨hLowYear, hHighYear, hLowMonth, hHighMonth, hLowDay, hHighDay⟩ := t.date
  obtain ⟨hSecond, hNano⟩ := t.time
  have hDays : t.day ≤ 31 := by
    unfold Instant.daysInMonth at hHighDay
    split at hHighDay
    · split at hHighDay <;> omega
    · split at hHighDay <;> omega
  have hMinuteSecond : secondOfMinute t ≤ 60 := by
    rw [secondOfMinute]
    split <;> omega
  have hText : (print t).toList = printYear t.year ++ '-' :: (padded 2 t.month ++ '-' ::
      (padded 2 t.day ++ 'T' :: (padded 2 (t.second / 3600) ++ ':' ::
        (padded 2 (t.second / 60 % 60) ++ ':' :: (padded 2 (secondOfMinute t) ++
          (printFraction (t.nano % 1000000000) ++ ['Z'])))))) := by
    simp [print, printLocal, printDate, printClock]
  have hSum : t.second / 3600 * 3600 + t.second / 60 % 60 * 60 + t.second % 60 = t.second := by
    omega
  have hFraction : ∀ c ∈ (printFraction (t.nano % 1000000000) ++ ['Z']).head?,
      c.isDigit = false := by
    rw [printFraction]
    repeat' split
    all_goals simp
  have hMonth := fun rest => readField_padded hLowMonth hHighMonth (by omega)
    ('-' :: rest) (by simp)
  have hDay := fun rest => readField_padded hLowDay hDays (by omega)
    ('T' :: rest) (by simp)
  have hHour : ∀ rest, readField 0 23 (padded 2 (t.second / 3600) ++ ':' :: rest) =
      .ok (t.second / 3600, ':' :: rest) :=
    fun rest => readField_padded (by omega) (by omega) (by omega) _ (by simp)
  have hMinute : ∀ rest, readField 0 59 (padded 2 (t.second / 60 % 60) ++ ':' :: rest) =
      .ok (t.second / 60 % 60, ':' :: rest) :=
    fun rest => readField_padded (by omega) (by omega) (by omega) _ (by simp)
  have hSecondField := readField_padded (Nat.zero_le _) hMinuteSecond (by omega) _ hFraction
  have hMark : ∀ c ∈ ['Z'].head?, c.isDigit = false ∧ c ≠ '.' := by simp
  have hNanos := readFraction_print (Nat.mod_lt t.nano (by decide : 0 < 1000000000)) hMark
  have hZone : readZone (Text.trimStart ['Z']) = .ok (0, []) := rfl
  have hEnd : Text.trimStart [] = [] := rfl
  -- field by field, each ends where the next mark stands
  rw [read, hText]
  simp only [readYear_print hLowYear hHighYear,
    readMark_cons (by decide : Text.isBlank '-' = false),
    readMark_cons (by decide : Text.isBlank ':' = false), hMonth, hDay, hHour, hMinute,
    hSecondField, hNanos, hZone, hEnd, bind, Except.bind, pure, Except.pure, true_or, if_true,
    ne_eq, not_true_eq_false, if_false, second_of_clock, hSum, ofFields?_self, ofLocal_zero]
  rfl

end Galley.Time
