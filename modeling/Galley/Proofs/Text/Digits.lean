import Galley.Text.Digits

/-!
# Digits read back

Decimal digits read back to the number that they were written for. Every reader of this library
that takes decimal digits goes through `decimalValue`, so this is the one place where the value of
digits is computed.
-/

namespace Galley.Text

/-- The value of decimal digits, as the digits of a number are defined. -/
theorem decimalValue_eq_ofDigitChars (digits : List Char) :
    decimalValue digits = Nat.ofDigitChars 10 digits 0 := by
  rw [Nat.ofDigitChars_eq_foldl]
  rfl

/-- The digits of a number have its value. -/
@[simp] theorem decimalValue_toDigits (n : Nat) : decimalValue (Nat.toDigits 10 n) = n := by
  rw [decimalValue_eq_ofDigitChars, Nat.ofDigitChars_ten_toDigits]

/-- The digits of a number are digits. -/
theorem isDigit_of_mem_toDigits {n : Nat} {c : Char} (h : c ∈ Nat.toDigits 10 n) :
    c.isDigit = true :=
  Nat.isDigit_of_mem_toDigits (by decide) (by decide) h

/-- A character that is no digit is not among the digits of a number. -/
theorem not_mem_toDigits {n : Nat} {c : Char} (h : c.isDigit = false) : c ∉ Nat.toDigits 10 n := by
  intro hmem
  rw [isDigit_of_mem_toDigits hmem] at h
  exact Bool.noConfusion h

/-- Leading zeros do not count. -/
theorem decimalValue_zeros (n : Nat) (digits : List Char) :
    decimalValue (List.replicate n '0' ++ digits) = decimalValue digits := by
  induction n with
  | zero => rfl
  | succ n ih =>
    rw [← ih, List.replicate_succ, List.cons_append, decimalValue, decimalValue, List.foldl_cons]
    rfl

/-- Characters of one kind are told from a text behind them that does not start with one. -/
theorem span_append {kind : Char → Bool} {front rest : List Char}
    (hFront : ∀ c ∈ front, kind c = true) (hRest : ∀ c ∈ rest.head?, kind c = false) :
    (front ++ rest).takeWhile kind = front ∧ (front ++ rest).dropWhile kind = rest := by
  rw [List.takeWhile_append_of_pos hFront, List.dropWhile_append_of_pos hFront]
  cases rest with
  | nil => simp
  | cons c rest =>
    have hc := hRest c rfl
    simp [hc]

/-- Digits are told from a text behind them that does not start with one. -/
theorem span_digits {digits rest : List Char} (hDigits : ∀ c ∈ digits, c.isDigit = true)
    (hRest : ∀ c ∈ rest.head?, c.isDigit = false) :
    (digits ++ rest).takeWhile Char.isDigit = digits ∧
      (digits ++ rest).dropWhile Char.isDigit = rest :=
  span_append hDigits hRest

theorem readDecimal?_toDigits (n : Nat) : readDecimal? (Nat.toDigits 10 n) = some n := by
  have hAll : (Nat.toDigits 10 n).all Char.isDigit = true :=
    List.all_eq_true.mpr fun _ h => isDigit_of_mem_toDigits h
  rw [readDecimal?, hAll, decimalValue_toDigits]
  simp [Nat.toDigits_ne_nil]

/-- The digits of a number are read as that number. -/
theorem readNatural?_toDigits (n : Nat) : readNatural? (Nat.toDigits 10 n) = some n := by
  rw [readNatural?.eq_def]
  split
  · next cs hSign =>
    have : '+' ∈ Nat.toDigits 10 n := by simp [hSign]
    exact absurd this (not_mem_toDigits (by decide))
  · exact readDecimal?_toDigits n

end Galley.Text
