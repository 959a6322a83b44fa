import Mathlib.Algebra.Group.Nat.Defs
import Galley.Identity.Uuid

/-!
# Identifiers read back

An identifier is read back from its written form: 32 hexadecimal digits keep all 128 bits, and the
hyphens part them into the groups that the reader asks for.

Main results:

* `readDigits_hexDigits` — hexadecimal digits are read as the number that they were written for.
* `groups_print` — the groups of a written identifier.
* `read_toText` — an identifier is read back.
-/

namespace Galley.Uuid

-- ---------------------------------------------------------------------------
-- Digits
-- ---------------------------------------------------------------------------

theorem length_hexDigits (count n : Nat) : (hexDigits count n).length = count := by
  induction count generalizing n with
  | zero => rfl
  | succ count ih => rw [hexDigits, List.length_append, ih, List.length_singleton]

/-- What holds of the sixteen digits holds of every digit of a number. -/
theorem forall_mem_hexDigits {P : Char → Prop} (h : ∀ d : Fin 16, P (Nat.digitChar d))
    {count n : Nat} {c : Char} (hc : c ∈ hexDigits count n) : P c := by
  induction count generalizing n with
  | zero => cases hc
  | succ count ih =>
    rw [hexDigits] at hc
    rcases List.mem_append.mp hc with hc | hc
    · exact ih hc
    · rw [List.mem_singleton.mp hc]
      exact h ⟨n % 16, Nat.mod_lt _ (by decide)⟩

theorem hexValue_digitChar : ∀ d : Fin 16, Text.hexValue (Nat.digitChar d) = some d.val := by
  decide

theorem readDigits_cons (m : Nat) (c : Char) (cs : List Char) :
    readDigits m (c :: cs) = (Text.hexValue c).bind fun d => readDigits (16 * m + d) cs := by
  rfl

theorem readDigits_append (ds : List Char) (d : Fin 16) : ∀ m : Nat,
    readDigits m (ds ++ [Nat.digitChar d]) = (readDigits m ds).map fun k => 16 * k + d.val := by
  induction ds with
  | nil =>
    intro m
    rw [List.nil_append, readDigits_cons, hexValue_digitChar]
    rfl
  | cons c ds ih =>
    intro m
    rw [List.cons_append, readDigits_cons, readDigits_cons]
    cases Text.hexValue c with
    | none => rfl
    | some v => exact ih (16 * m + v)

/-- **Hexadecimal digits are read as the number that they were written for**, as far as there are
digits. -/
theorem readDigits_hexDigits (count n : Nat) :
    readDigits 0 (hexDigits count n) = some (n % 16 ^ count) := by
  induction count generalizing n with
  | zero => rw [Nat.pow_zero, Nat.mod_one]; rfl
  | succ count ih =>
    have hDigit := readDigits_append (hexDigits count (n / 16))
      ⟨n % 16, Nat.mod_lt _ (by decide)⟩ 0
    rw [hexDigits, hDigit, ih, Option.map_some]
    congr 1
    rw [Nat.pow_succ', Nat.mod_mul]
    exact Nat.add_comm _ _

-- ---------------------------------------------------------------------------
-- Groups
-- ---------------------------------------------------------------------------

theorem groups_cons {c : Char} (hc : c ≠ '-') {cs g : List Char} {gs : List (List Char)}
    (h : groups cs = g :: gs) : groups (c :: cs) = (c :: g) :: gs := by
  rw [groups, if_neg hc, h]

/-- A text without hyphens is a group by itself. -/
theorem groups_last {g : List Char} (hg : ∀ c ∈ g, c ≠ '-') : groups g = [g] := by
  induction g with
  | nil => rfl
  | cons c g ih =>
    exact groups_cons (hg c List.mem_cons_self) (ih fun d hd => hg d (List.mem_cons_of_mem _ hd))

/-- A hyphen ends a group. -/
theorem groups_append {g : List Char} (hg : ∀ c ∈ g, c ≠ '-') (cs : List Char) :
    groups (g ++ '-' :: cs) = g :: groups cs := by
  induction g with
  | nil => rw [List.nil_append, groups, if_pos rfl]
  | cons c g ih =>
    exact groups_cons (hg c List.mem_cons_self) (ih fun d hd => hg d (List.mem_cons_of_mem _ hd))

/-- The digits of an identifier. -/
def digits (u : Uuid) : List Char := hexDigits 32 u.value

theorem ne_hyphen_of_mem_digits {u : Uuid} {c : Char} (hc : c ∈ u.digits) : c ≠ '-' :=
  forall_mem_hexDigits (P := fun c => c ≠ '-') (by decide) hc

theorem print_eq (u : Uuid) :
    u.print = u.digits.take 8 ++ '-' :: ((u.digits.drop 8).take 4 ++ '-' ::
      ((u.digits.drop 12).take 4 ++ '-' :: ((u.digits.drop 16).take 4 ++ '-' ::
        u.digits.drop 20))) := by
  simp [print, digits]

theorem length_digits (u : Uuid) : u.digits.length = 32 := length_hexDigits 32 _

/-- **The groups of a written identifier.** -/
theorem groups_print (u : Uuid) :
    groups u.print = [u.digits.take 8, (u.digits.drop 8).take 4, (u.digits.drop 12).take 4,
      (u.digits.drop 16).take 4, u.digits.drop 20] := by
  have hDigits : ∀ c ∈ u.digits, c ≠ '-' := fun _ hc => ne_hyphen_of_mem_digits hc
  have hTake : ∀ k n, ∀ c ∈ (u.digits.drop k).take n, c ≠ '-' := fun k n c hc =>
    hDigits c (List.mem_of_mem_drop (List.mem_of_mem_take hc))
  rw [print_eq, groups_append fun c hc => hDigits c (List.mem_of_mem_take hc),
    groups_append (hTake 8 4), groups_append (hTake 12 4), groups_append (hTake 16 4),
    groups_last fun c hc => hDigits c (List.mem_of_mem_drop hc)]

/-- The groups hold all digits. -/
theorem flatten_groups_print (u : Uuid) : (groups u.print).flatten = u.digits := by
  have h8 : u.digits.drop 12 = (u.digits.drop 8).drop 4 := by rw [List.drop_drop]
  have h12 : u.digits.drop 16 = (u.digits.drop 12).drop 4 := by rw [List.drop_drop]
  have h16 : u.digits.drop 20 = (u.digits.drop 16).drop 4 := by rw [List.drop_drop]
  rw [groups_print]
  simp only [List.flatten_cons, List.flatten_nil, List.append_nil]
  rw [h16, List.take_append_drop, h12, List.take_append_drop, h8, List.take_append_drop,
    List.take_append_drop]

theorem readGroups_print (u : Uuid) : readGroups u.print = some u.value.val := by
  have hLengths : (groups u.print).map List.length = groupLengths := by
    rw [groups_print]
    simp [length_digits, groupLengths]
  have hValue : u.value.val % 16 ^ 32 = u.value := Nat.mod_eq_of_lt u.value.isLt
  rw [readGroups]
  simp only [hLengths, if_true, flatten_groups_print]
  rw [digits, readDigits_hexDigits, hValue]

/-- In a text of characters of one byte, bytes and characters are as many. -/
theorem byteLength_eq_length {cs : List Char} (h : ∀ c ∈ cs, c.utf8Size = 1) :
    Text.byteLength cs = cs.length := by
  induction cs with
  | nil => rfl
  | cons c cs ih =>
    rw [Text.byteLength, h c List.mem_cons_self, ih fun d hd => h d (List.mem_cons_of_mem _ hd),
      List.length_cons, Nat.add_comm]

/-- A written identifier takes 36 bytes. -/
theorem byteLength_print (u : Uuid) : Text.byteLength u.print = 36 := by
  have hOne : ∀ c ∈ u.digits, c.utf8Size = 1 := fun _ hc =>
    forall_mem_hexDigits (P := fun c => c.utf8Size = 1) (by decide) hc
  have hTake : ∀ k n, ∀ c ∈ (u.digits.drop k).take n, c.utf8Size = 1 := fun k n c hc =>
    hOne c (List.mem_of_mem_drop (List.mem_of_mem_take hc))
  have hHyphen : '-'.utf8Size = 1 := by decide
  rw [byteLength_eq_length, print_eq]
  · simp [length_digits]
  · intro c hc
    rw [print_eq] at hc
    simp only [List.mem_append, List.mem_cons] at hc
    obtain hc | rfl | hc | rfl | hc | rfl | hc | rfl | hc := hc
    · exact hOne c (List.mem_of_mem_take hc)
    · exact hHyphen
    · exact hTake 8 4 c hc
    · exact hHyphen
    · exact hTake 12 4 c hc
    · exact hHyphen
    · exact hTake 16 4 c hc
    · exact hHyphen
    · exact hOne c (List.mem_of_mem_drop hc)

/-- **An identifier is read back.** -/
theorem read_toText (u : Uuid) : read u.toText = .ok u := by
  have hUnwrap : unwrap? u.print = some u.print := by
    rw [unwrap?, byteLength_print]
    rfl
  have hSame : ofNat u.value.val = u := by
    have : Fin.ofNat Word.values128 u.value.val = u.value := Fin.ofNat_val_eq_self _
    rw [ofNat.eq_def, this]
  rw [read, toText, String.toList_ofList]
  simp only [hUnwrap, readGroups_print, hSame]

end Galley.Uuid
