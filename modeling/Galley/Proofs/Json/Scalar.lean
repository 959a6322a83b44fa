import Galley.Proofs.Json.Value
import Galley.Proofs.Text.Digits
import Mathlib.Tactic.ByContra

/-!
# Written scalars, read back

Strings and integers are read back from their written forms, with any text behind them. An escape
stands for exactly one character, and a character that is written as it is neither ends the string
nor starts an escape. The digits of an integer have no superfluous zero, and as long as the integer
fits a word they are all taken.

What follows an integer must not go on with it (`NoNumber`); what follows a string may be anything.

Main results:

* `readString_printString` — strings are read back.
* `readScalar_printInteger` — integers in the range that the reader keeps are read back.
-/

namespace Galley.Json

-- ---------------------------------------------------------------------------
-- Strings
-- ---------------------------------------------------------------------------

/-- A hexadecimal digit is read back. -/
theorem hexValue_hexDigit : ∀ d : Fin 16, Text.hexValue (hexDigit d) = some d.val := by decide

/-- The escape of a control character is read as that character. -/
theorem readUnicode_control {c : Char} (h : c.toNat < 0x20) (rest : List Char) :
    readUnicode ('0' :: '0' :: hexDigit (c.toNat / 16) :: hexDigit (c.toNat % 16) :: rest) =
      .ok (c, rest) := by
  have hZero : Text.hexValue '0' = some 0 := rfl
  have hHigh := hexValue_hexDigit ⟨c.toNat / 16, by omega⟩
  have hLow := hexValue_hexDigit ⟨c.toNat % 16, Nat.mod_lt _ (by decide)⟩
  have hSum : ((0 * 16 + 0) * 16 + c.toNat / 16) * 16 + c.toNat % 16 = c.toNat := by omega
  rw [readUnicode, readHex]
  simp only [hZero, hHigh, hLow, hSum]
  rw [if_neg (by omega), if_pos (by omega), Char.ofNat_toNat]

/-- The written form of a character is read as that character. -/
theorem readChars_printChar (c : Char) (fuel : Nat) (done rest : List Char) :
    readChars (fuel + 1) done (printChar c ++ rest) = readChars fuel (c :: done) rest := by
  rw [printChar]
  split
  · next h => subst h; rfl
  split
  · next h => subst h; rfl
  split
  · next h => subst h; rfl
  split
  · next h => subst h; rfl
  split
  · next h => subst h; rfl
  split
  · next h => subst h; rfl
  split
  · next h => subst h; rfl
  split
  · next hControl =>
    rw [List.cons_append, List.cons_append, readChars.eq_def]
    simp only [List.cons_append, List.nil_append, readUnicode_control hControl]
    rfl
  · next hQuote hBackslash _ _ _ _ _ hControl =>
    rw [List.singleton_append, readChars.eq_def]
    simp only [if_neg hQuote, if_neg hBackslash, if_neg hControl]

/-- The written forms of characters and a closing quote are read as these characters. -/
theorem readChars_print (cs : List Char) :
    ∀ (fuel : Nat) (done rest : List Char), cs.length < fuel →
      readChars fuel done (cs.flatMap printChar ++ '"' :: rest) =
        .ok (done.reverse ++ cs, rest) := by
  induction cs with
  | nil =>
    intro fuel done rest hFuel
    obtain ⟨fuel, rfl⟩ := Nat.exists_eq_succ_of_ne_zero (Nat.ne_of_gt hFuel)
    simp [readChars]
  | cons c cs ih =>
    intro fuel done rest hFuel
    rw [List.length_cons] at hFuel
    obtain ⟨fuel, rfl⟩ := Nat.exists_eq_succ_of_ne_zero (Nat.ne_zero_of_lt hFuel)
    rw [List.flatMap_cons, List.append_assoc, readChars_printChar, ih fuel _ _ (by omega)]
    simp

/-- A written character is not empty. -/
theorem length_le_flatMap_printChar (cs : List Char) :
    cs.length ≤ (cs.flatMap printChar).length := by
  induction cs with
  | nil => exact Nat.le_refl _
  | cons c cs ih =>
    have hChar : 1 ≤ (printChar c).length := by
      rw [printChar]
      repeat' split
      all_goals simp
    rw [List.flatMap_cons, List.length_append, List.length_cons]
    omega

/-- **A written string is read back** after its opening quote. -/
theorem readString_printString (s : String) (fuel : Nat) (rest : List Char)
    (hFuel : (printString s).length ≤ fuel) :
    readString fuel ((printString s).tail ++ rest) = .ok (s, rest) := by
  have hLength := length_le_flatMap_printChar s.toList
  have hPrinted : (printString s).length = (s.toList.flatMap printChar).length + 2 := by
    simp [printString]
  have hTail : (printString s).tail ++ rest = s.toList.flatMap printChar ++ '"' :: rest := by
    simp [printString]
  rw [readString, hTail, readChars_print _ _ _ _ (by omega)]
  simp [bind, Except.bind, pure, Except.pure]

-- ---------------------------------------------------------------------------
-- Integers
-- ---------------------------------------------------------------------------

/-- A text that does not go on with a number. -/
def NoNumber (rest : List Char) : Prop :=
  ∀ c ∈ rest.head?, c.isDigit = false ∧ c ≠ '.' ∧ c ≠ 'e' ∧ c ≠ 'E'

theorem noNumber_nil : NoNumber [] := by simp [NoNumber]

/-- No number goes on with a character of another kind. -/
theorem noNumber_cons {c : Char} (rest : List Char)
    (h : c.isDigit = false ∧ c ≠ '.' ∧ c ≠ 'e' ∧ c ≠ 'E') : NoNumber (c :: rest) := by
  intro d hd
  rw [List.head?_cons, Option.mem_some_iff] at hd
  exact hd ▸ h

/-- Digits are taken one after another as long as the number stays below the limit; it never
shrinks. -/
theorem le_foldl_digits (ds : List Char) (value : Nat) :
    value ≤ ds.foldl (fun n c => 10 * n + Text.digitValue c) value := by
  induction ds generalizing value with
  | nil => exact Nat.le_refl _
  | cons d ds ih =>
    have := ih (10 * value + Text.digitValue d)
    rw [List.foldl_cons]
    omega

/-- All digits of a number that fits a word are taken. -/
theorem absorb_eq (ds : List Char) :
    ∀ value : Nat, ds.foldl (fun n c => 10 * n + Text.digitValue c) value < Word.values64 →
      absorb value ds =
        (ds.foldl (fun n c => 10 * n + Text.digitValue c) value, ds.length, []) := by
  induction ds with
  | nil =>
    intro value _
    rfl
  | cons d ds ih =>
    intro value h
    rw [List.foldl_cons] at h ⊢
    have hNext := Nat.lt_of_le_of_lt (le_foldl_digits ds _) h
    rw [absorb]
    simp only [hNext, if_true, ih _ h]
    rfl

/-- The digits of a number other than zero do not start with a zero. -/
theorem head?_toDigits {n : Nat} (h : n ≠ 0) : (Nat.toDigits 10 n).head? ≠ some '0' := by
  induction n using Nat.strongRecOn with
  | ind n ih =>
    rw [Nat.toDigits_eq_if (by decide)]
    split
    · next hSmall =>
      have hDigit : ∀ d : Fin 10, d.val ≠ 0 → d.val.digitChar ≠ '0' := by decide
      simpa using hDigit ⟨n, hSmall⟩ h
    · next hLarge =>
      obtain ⟨d, ds, hFirst⟩ :=
        List.exists_cons_of_ne_nil (Nat.toDigits_ne_nil : Nat.toDigits 10 (n / 10) ≠ [])
      have hd := ih (n / 10) (by omega) (by omega)
      rw [hFirst] at hd ⊢
      exact hd

/-- A number starts with a superfluous zero if it starts with a zero and goes on with a digit. The
digits of a number do not. -/
theorem not_superfluous_zero {n : Nat} {c : Char} {ds rest : List Char}
    (hDigits : Nat.toDigits 10 n = c :: ds) (hRest : NoNumber rest) :
    ¬ (c = '0' ∧ ((ds ++ rest).head?.any Char.isDigit) = true) := by
  rintro ⟨rfl, hNext⟩
  have hZero : n = 0 := by
    by_contra hne
    exact head?_toDigits hne (by rw [hDigits]; rfl)
  subst hZero
  have hEmpty : ds = [] := by
    have : Nat.toDigits 10 0 = ['0'] := rfl
    rw [this] at hDigits
    exact (List.cons.inj hDigits).2.symm
  rw [hEmpty, List.nil_append] at hNext
  cases rest with
  | nil => simp at hNext
  | cons d rest =>
    have hd := (hRest d rfl).1
    simp [hd] at hNext

/-- **The digits of a number that fits a word are read back.** A negative number must be one that
the reader keeps exactly. -/
theorem readNumber_toDigits {n : Nat} (hn : n < Word.values64) (negative : Bool)
    (hSign : negative = true → n ≠ 0 ∧ n ≤ Word.values63) {rest : List Char}
    (hRest : NoNumber rest) :
    readNumber negative (Nat.toDigits 10 n ++ rest) =
      .ok (.integer (if negative then -(n : Int) else n), rest) := by
  have hAll : ∀ c ∈ Nat.toDigits 10 n, c.isDigit = true := fun _ h =>
    Text.isDigit_of_mem_toDigits h
  obtain ⟨hTake, hDrop⟩ := Text.span_digits hAll fun c hc => (hRest c hc).1
  have hValue : (Nat.toDigits 10 n).foldl (fun n c => 10 * n + Text.digitValue c) 0 = n :=
    Text.decimalValue_toDigits n
  have hAbsorb := absorb_eq (Nat.toDigits 10 n) 0 (by rw [hValue]; exact hn)
  rw [hValue] at hAbsorb
  obtain ⟨c, ds, hDigits⟩ :=
    List.exists_cons_of_ne_nil (Nat.toDigits_ne_nil : Nat.toDigits 10 n ≠ [])
  rw [hDigits] at hTake hDrop hAbsorb hAll ⊢
  rw [List.cons_append] at hTake hDrop ⊢
  rw [readNumber]
  simp only [hAll c List.mem_cons_self, if_true, not_superfluous_zero hDigits hRest, if_false,
    hTake, hDrop, hAbsorb]
  -- behind the digits comes nothing that would make it a real
  split
  · next h => exact absurd rfl (hRest '.' (by simp)).2.1
  · next h => exact absurd rfl (hRest 'e' (by simp)).2.2.1
  · next h => exact absurd rfl (hRest 'E' (by simp)).2.2.2
  · cases negative with
    | false => simp
    | true =>
      obtain ⟨hPositive, hSmall⟩ := hSign rfl
      simp [hPositive, Nat.not_lt.mpr hSmall]

/-- A number without a sign is read from its first digit on. -/
theorem readScalar_digit {c : Char} (hDigit : c.isDigit = true) (fuel : Nat) (rest : List Char) :
    readScalar fuel c rest =
      (readNumber false (c :: rest)).map fun (n, rest) => (.number n, rest) := by
  rw [readScalar.eq_def]
  split
  all_goals first
    | exact absurd hDigit (by decide)
    | rw [if_pos hDigit]

/-- A written integer starts with a sign or a digit. -/
theorem printInteger_eq_cons (n : Int) :
    ∃ c cs, printInteger n = c :: cs ∧ (c = '-' ∨ c.isDigit = true) := by
  by_cases hNegative : n < 0
  · exact ⟨'-', Nat.toDigits 10 n.natAbs, by rw [printInteger, if_pos hNegative], .inl rfl⟩
  · obtain ⟨c, cs, hDigits⟩ :=
      List.exists_cons_of_ne_nil (Nat.toDigits_ne_nil : Nat.toDigits 10 n.natAbs ≠ [])
    refine ⟨c, cs, by rw [printInteger, if_neg hNegative, hDigits], .inr ?_⟩
    exact Text.isDigit_of_mem_toDigits (n := n.natAbs) (by rw [hDigits]; exact List.mem_cons_self)

/-- **A written integer is read back** if it is kept exactly. -/
theorem readScalar_printInteger {n : Int} (hn : isExact n = true) {c : Char} {cs : List Char}
    (hPrinted : printInteger n = c :: cs) (fuel : Nat) {rest : List Char} (hRest : NoNumber rest) :
    readScalar fuel c (cs ++ rest) = .ok (.number (.integer n), rest) := by
  rw [isExact, Bool.and_eq_true, decide_eq_true_eq, decide_eq_true_eq] at hn
  have hWord : n.natAbs < Word.values64 := by unfold Word.values63 Word.values64 at *; omega
  by_cases hNegative : n < 0
  · rw [printInteger, if_pos hNegative] at hPrinted
    obtain ⟨rfl, rfl⟩ := List.cons.inj hPrinted
    have hValue : -(n.natAbs : Int) = n := by omega
    rw [readScalar, readNumber_toDigits hWord true (fun _ => by omega) hRest]
    simp only [Except.map, if_true, hValue]
  · rw [printInteger, if_neg hNegative] at hPrinted
    have hDigit : c.isDigit = true :=
      Text.isDigit_of_mem_toDigits (n := n.natAbs) (by rw [hPrinted]; exact List.mem_cons_self)
    have hValue : (n.natAbs : Int) = n := by omega
    rw [readScalar_digit hDigit, ← List.cons_append, ← hPrinted,
      readNumber_toDigits hWord false (by simp) hRest]
    simp [Except.map, hValue]

end Galley.Json
