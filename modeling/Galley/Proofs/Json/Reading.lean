import Mathlib.Tactic.DefEqTransformations
import Galley.Json.ShapeReader
import Galley.Proofs.Json.ShapeReader

/-!
# What a reader gives

Not every value comes out of a reader. Integers are ones that it keeps, members stand in order, and
nothing is nested deeper than it was allowed to go. And what it gives does not depend on how deep it
was allowed to go, as long as that was deep enough.

Both are said at once: a reader that may go to some depth is compared to one that may go deeper
(`Within`). The argument follows the readers, from lists and objects whose parts are read by any
step to values and shapes.

Main results:

* `readValue_within` — values are valid and not nested too deeply.
* `Shape.read_within` — so are the opaque values in data of a shape.
* `Shape.eq_of_read_written` — a written form is read as what was written, if it is read.
-/

namespace Galley.Json

/-- Where one reader gives something, so does the other, and what they give has a property. -/
def Within {α : Type} (P : α → Prop) (a b : Reader α) : Prop :=
  ∀ cs x rest, a cs = .ok (x, rest) → P x ∧ b cs = .ok (x, rest)

section

variable {α β : Type} {P : α → Prop} {Q : β → Prop} {a b : Reader α}

/-- A reader is within itself, if what it gives has the property. -/
theorem within_self (h : ∀ cs x rest, a cs = .ok (x, rest) → P x) : Within P a a :=
  fun cs x rest hRead => ⟨h cs x rest hRead, hRead⟩

/-- A reader that does not count levels reads the same with more of them. -/
theorem within_trivial (a : Reader α) : Within (fun _ => True) a a :=
  within_self fun _ _ _ _ => trivial

/-- What a reader gives may be changed on the way. -/
theorem Within.map (h : Within P a b) {f : α → β} (hf : ∀ x, P x → Q (f x)) :
    Within Q (fun cs => (a cs).map fun (x, rest) => (f x, rest))
      (fun cs => (b cs).map fun (x, rest) => (f x, rest)) := by
  intro cs y rest hRead
  obtain ⟨⟨x, rest'⟩, hx, hy⟩ := map_eq_ok.mp hRead
  cases hy
  obtain ⟨hP, hb⟩ := h _ _ _ hx
  refine ⟨hf x hP, ?_⟩
  show (b cs).map _ = _
  rw [hb]
  rfl

/-- Readers may follow one another. -/
theorem Within.bind (h : Within P a b) {f g : α → Reader β}
    (hNext : ∀ x, P x → Within Q (f x) (g x)) :
    Within Q (fun cs => a cs >>= fun (x, rest) => f x rest)
      (fun cs => b cs >>= fun (x, rest) => g x rest) := by
  intro cs y rest hRead
  obtain ⟨⟨x, rest'⟩, hx, hy⟩ := bind_eq_ok.mp hRead
  obtain ⟨hP, hb⟩ := h _ _ _ hx
  obtain ⟨hQ, hNext⟩ := hNext x hP _ _ _ hy
  refine ⟨hQ, ?_⟩
  show b cs >>= _ = _
  rw [hb]
  exact hNext

/-- Blanks may be passed over first. -/
theorem Within.onFirst {next next' : Char → Reader α}
    (h : ∀ c, Within P (next c) (next' c)) : Within P (onFirst next) (Json.onFirst next') := by
  intro cs x rest hRead
  rw [Json.onFirst] at hRead ⊢
  split at hRead
  · cases hRead
  · next c _ hSkip => exact h c _ _ _ hRead

/-- A test of what is known already chooses between readers. -/
theorem within_ite {p : Prop} [Decidable p] {a' b' : Reader α} (hThen : p → Within P a a')
    (hElse : ¬p → Within P b b') :
    Within P (fun cs => if p then a cs else b cs) fun cs => if p then a' cs else b' cs := by
  by_cases h : p
  · simp only [if_pos h]
    exact hThen h
  · simp only [if_neg h]
    exact hElse h

/-- A complaint about a value of the wrong kind gives nothing. -/
theorem within_readWrong (fuel : Nat) (expected : String) (c : Char) (b : Reader α) :
    Within P (readWrong fuel expected c) b := by
  intro cs x rest hRead
  rw [readWrong] at hRead
  split at hRead
  · cases hRead
  split at hRead
  · cases hRead
  split at hRead
  · cases hRead
  · cases hRead

/-- A colon and the value behind it may be read under a name. -/
theorem Within.underName (h : Within P a b) (name : String) :
    Within P (underName name a) (Json.underName name b) := by
  intro cs x rest hRead
  rw [Json.underName] at hRead ⊢
  split at hRead
  · cases hRead
  · next result hResult =>
    cases hRead
    obtain ⟨next, hColon, ha⟩ := bind_eq_ok.mp hResult
    obtain ⟨hP, hb⟩ := h _ _ _ ha
    refine ⟨hP, ?_⟩
    rw [hColon]
    have hNext : (Except.ok next >>= b) = .ok (x, rest) := hb
    rw [hNext]

/-- Opening a list or an object takes one level. -/
theorem Within.opening {c : Char} {levels : Nat} (more : Nat)
    {inside inside' : Nat → Reader α}
    (h : ∀ {inner}, levels = inner + 1 → Within P (inside inner) (inside' (inner + more))) :
    Within P (opening c levels inside) (Json.opening c (levels + more) inside') := by
  intro cs x rest hRead
  cases levels with
  | zero => cases hRead
  | succ inner =>
    rw [Nat.succ_add]
    exact h rfl _ _ _ hRead

-- ---------------------------------------------------------------------------
-- Lists and objects
-- ---------------------------------------------------------------------------

/-- **A list is read item by item.** -/
theorem Within.readItems (h : Within P a b) :
    ∀ fuel position : Nat,
      Within (fun xs => ∀ x ∈ xs, P x) (readItems a fuel position)
        (Json.readItems b fuel position) := by
  intro fuel
  induction fuel with
  | zero =>
    intro position cs xs rest hRead
    cases hRead
  | succ fuel ih =>
    intro position cs xs rest hRead
    rw [Json.readItems] at hRead ⊢
    split at hRead
    · cases hRead
    · cases hRead
      exact ⟨fun _ hx => absurd hx List.not_mem_nil, rfl⟩
    · split at hRead
      · cases hRead
      · next x _ hItem =>
        obtain ⟨⟨ys, rest'⟩, hTail, hEq⟩ := bind_eq_ok.mp hRead
        cases hEq
        obtain ⟨hx, hb⟩ := h _ _ _ hItem
        obtain ⟨hys, hTail'⟩ := ih (position + 1) _ _ _ hTail
        refine ⟨List.forall_mem_cons.mpr ⟨hx, hys⟩, ?_⟩
        simp only [hb, hTail']
        rfl

/-- **An object is read member by member**, and the state keeps a property. -/
theorem within_readMembers {member member' : String → α → Reader α}
    (h : ∀ name state, P state → Within P (member name state) (member' name state)) :
    ∀ (fuel : Nat) (first : Bool) (state : α), P state →
      Within P (readMembers member fuel first state) (readMembers member' fuel first state) := by
  intro fuel
  induction fuel with
  | zero =>
    intro first state hState cs x rest hRead
    cases hRead
  | succ fuel ih =>
    intro first state hState cs x rest hRead
    rw [readMembers] at hRead ⊢
    split at hRead
    · cases hRead
    · cases hRead
      exact ⟨hState, rfl⟩
    · next name _ hNext =>
      obtain ⟨⟨next, rest'⟩, hMember, hRest⟩ := bind_eq_ok.mp hRead
      obtain ⟨hNextState, hMember'⟩ := h name state hState _ _ _ hMember
      obtain ⟨hx, hRest'⟩ := ih false next hNextState _ _ _ hRest
      refine ⟨hx, ?_⟩
      simp only [hMember']
      exact hRest'

end

-- ---------------------------------------------------------------------------
-- Numbers
-- ---------------------------------------------------------------------------

/-- A real is kept as it is. -/
theorem finishReal_isValid {negative : Bool} {significand : Nat} {exponent : Int}
    {cs rest : List Char} {n : Number}
    (h : finishReal negative significand exponent cs = .ok (n, rest)) :
    (Json.number n).isValid = true := by
  rw [finishReal] at h
  cases hScaled : scaled negative significand exponent with
  | none =>
    rw [hScaled] at h
    cases h
  | some x =>
    rw [hScaled] at h
    cases h
    rfl

/-- A number with an exponent is a real, or zero, so it is valid. -/
theorem readExponent_isValid {negative : Bool} {significand : Nat} {exponent : Int}
    {cs rest : List Char} {n : Number}
    (h : readExponent negative significand exponent cs = .ok (n, rest)) :
    (Json.number n).isValid = true := by
  rw [readExponent.eq_def] at h
  split at h
  next down digits hSigned =>
  clear hSigned
  cases digits with
  | nil => cases h
  | cons c tail =>
    simp only at h
    split at h
    · cases hValue : exponentValue 0 (c :: tail.takeWhile Char.isDigit) with
      | ok e =>
        rw [hValue] at h
        exact finishReal_isValid h
      | error left =>
        rw [hValue] at h
        simp only at h
        split at h
        · cases h
        · cases h
          rfl
    · cases h

theorem readFraction_isValid {negative : Bool} {significand : Nat} {exponent : Int}
    {cs rest : List Char} {n : Number}
    (h : readFraction negative significand exponent cs = .ok (n, rest)) :
    (Json.number n).isValid = true := by
  rw [readFraction] at h
  simp only at h
  split at h
  · split at h
    · cases h
    · cases h
  split at h
  · exact readExponent_isValid h
  · exact readExponent_isValid h
  · exact finishReal_isValid h

/-- Digits are taken as long as their number fits a word. -/
theorem absorb_lt (cs : List Char) :
    ∀ {value : Nat}, value < Word.values64 → (absorb value cs).1 < Word.values64 := by
  induction cs with
  | nil => exact fun h => h
  | cons c cs ih =>
    intro value h
    rw [absorb]
    simp only
    split
    · next hNext => exact ih hNext
    · exact h

/-- **Integers are ones that the reader keeps.** -/
theorem readNumber_isValid {negative : Bool} {cs rest : List Char} {n : Number}
    (h : readNumber negative cs = .ok (n, rest)) : (Json.number n).isValid = true := by
  have hZero : 0 < Word.values64 := by decide
  rw [readNumber.eq_def] at h
  split at h
  · cases h
  · next c tail =>
    split at h
    · split at h
      · cases h
      · have hFits := absorb_lt ((c :: tail).takeWhile Char.isDigit) hZero
        rcases hTaken : absorb 0 ((c :: tail).takeWhile Char.isDigit) with
          ⟨significand, count, left⟩
        simp only [hTaken] at h hFits
        split at h
        · exact readFraction_isValid h
        · exact readExponent_isValid h
        · exact readExponent_isValid h
        split at h
        · exact finishReal_isValid h
        split at h
        · split at h
          · exact finishReal_isValid h
          · next hRange =>
            cases h
            rw [not_or, Nat.not_lt] at hRange
            simp only [isValid, isExact, Bool.and_eq_true, decide_eq_true_eq]
            omega
        · cases h
          simp only [isValid, isExact, Bool.and_eq_true, decide_eq_true_eq]
          omega
    · cases h

-- ---------------------------------------------------------------------------
-- Values
-- ---------------------------------------------------------------------------

/-- A value that a reader gives which may open so many levels. -/
structure IsReadable (levels : Nat) (j : Json) : Prop where
  valid : j.isValid = true
  shallow : j.depth ≤ levels

/-- A value that is neither a list nor an object opens no level. -/
theorem readScalar_isReadable {fuel : Nat} {c : Char} {cs rest : List Char} {j : Json}
    (h : readScalar fuel c cs = .ok (j, rest)) (levels : Nat) : IsReadable levels j := by
  rw [readScalar.eq_def] at h
  split at h
  · obtain ⟨_, -, hj⟩ := map_eq_ok.mp h
    cases hj
    exact ⟨rfl, Nat.zero_le _⟩
  · obtain ⟨_, -, hj⟩ := map_eq_ok.mp h
    cases hj
    exact ⟨rfl, Nat.zero_le _⟩
  · obtain ⟨_, -, hj⟩ := map_eq_ok.mp h
    cases hj
    exact ⟨rfl, Nat.zero_le _⟩
  · obtain ⟨_, -, hj⟩ := map_eq_ok.mp h
    cases hj
    exact ⟨rfl, Nat.zero_le _⟩
  · obtain ⟨_, hNumber, hj⟩ := map_eq_ok.mp h
    cases hj
    exact ⟨readNumber_isValid hNumber, Nat.zero_le _⟩
  · split at h
    · obtain ⟨_, hNumber, hj⟩ := map_eq_ok.mp h
      cases hj
      exact ⟨readNumber_isValid hNumber, Nat.zero_le _⟩
    · cases h

/-- The members of an object on the way: in order, and each with a property. -/
structure Members {α : Type} (P : α → Prop) (held : List (String × α)) : Prop where
  increasing : Increasing held
  each : ∀ m ∈ held, P m.2

theorem members_nil {α : Type} (P : α → Prop) : Members P [] :=
  ⟨List.Pairwise.nil, fun _ hm => nomatch hm⟩

theorem Members.insert {α : Type} {P : α → Prop} {held : List (String × α)} (h : Members P held)
    (name : String) {x : α} (hx : P x) : Members P (insertMember name x held) := by
  refine ⟨h.increasing.insertMember, fun m hm => ?_⟩
  rcases mem_insertMember hm with rfl | hm
  · exact hx
  · exact h.each m hm

/-- What has been read is given, whatever comes behind it. -/
theorem within_pure {α : Type} {P : α → Prop} {x : α} (hx : P x) :
    Within P (fun cs => .ok (x, cs)) fun cs => .ok (x, cs) := by
  intro cs y rest h
  cases h
  exact ⟨hx, rfl⟩

/-- Members are put in order as they are read. -/
theorem Within.members {α : Type} {P : α → Prop} {a b : Reader α} (h : Within P a b) (fuel : Nat) :
    Within (Members P) (readMembers (insertRead a) fuel true [])
      (readMembers (insertRead b) fuel true []) := by
  refine within_readMembers (fun name held hHeld => ?_) fuel true [] (members_nil P)
  exact (h.underName name).bind fun x hx => within_pure (hHeld.insert name hx)

/-- **Values are valid and not nested too deeply**, and they are the same for a reader that may go
deeper. -/
theorem readValue_within (fuel more : Nat) : ∀ levels : Nat,
    Within (IsReadable levels) (readValue fuel levels) (readValue fuel (levels + more)) := by
  intro levels
  -- the levels decide: at the last one both readers refuse to open a list or an object
  induction levels with
  | zero =>
    intro cs j rest h
    rw [readValue.eq_def] at h
    rw [readValue.eq_def]
    rcases hSkip : skipBlank cs with _ | ⟨c, tail⟩
    · simp only [hSkip] at h
      cases h
    · simp only [hSkip] at h ⊢
      split at h
      · cases h
      split at h
      · cases h
      · next hList hObject =>
        rw [if_neg hList, if_neg hObject]
        exact ⟨readScalar_isReadable h 0, h⟩
  | succ levels ih =>
    intro cs j rest h
    rw [readValue.eq_def] at h
    rw [Nat.succ_add, readValue.eq_def]
    rcases hSkip : skipBlank cs with _ | ⟨c, tail⟩
    · simp only [hSkip] at h
      cases h
    · simp only [hSkip] at h ⊢
      split at h
      · next hList =>
        rw [if_pos hList]
        obtain ⟨⟨items, rest'⟩, hItems, hj⟩ := bind_eq_ok.mp h
        cases hj
        obtain ⟨hEach, hItems'⟩ := ih.readItems fuel 0 _ _ _ hItems
        refine ⟨⟨areValid_iff.mpr fun item hItem => (hEach item hItem).valid, ?_⟩, ?_⟩
        · exact Nat.succ_le_succ
            (depthOfItems_le_iff.mpr fun item hItem => (hEach item hItem).shallow)
        · rw [hItems']
          rfl
      split at h
      · next hList hObject =>
        rw [if_neg hList, if_pos hObject]
        obtain ⟨⟨members, rest'⟩, hMembers, hj⟩ := bind_eq_ok.mp h
        cases hj
        obtain ⟨hHeld, hMembers'⟩ := ih.members fuel _ _ _ hMembers
        refine ⟨⟨?_, ?_⟩, ?_⟩
        · rw [isValid, Bool.and_eq_true, decide_eq_true_eq]
          exact ⟨hHeld.increasing, haveValid_iff.mpr fun m hm => (hHeld.each m hm).valid⟩
        · exact Nat.succ_le_succ
            (depthOfMembers_le_iff.mpr fun m hm => (hHeld.each m hm).shallow)
        · show (readMembers (insertRead (readValue fuel (levels + more))) fuel true [] tail >>=
            _) = _
          rw [hMembers']
          rfl
      · next hList hObject =>
        rw [if_neg hList, if_neg hObject]
        exact ⟨readScalar_isReadable h _, h⟩

-- ---------------------------------------------------------------------------
-- Data of a shape
-- ---------------------------------------------------------------------------

mutual

/-- Data that a reader gives which may open so many levels. -/
def Shape.Admits : (shape : Shape) → (levels : Nat) → shape.Value → Prop
  | .text, _, _ => True
  | .flag, _, _ => True
  | .word32, _, _ => True
  | .word64, _, n => n < Word.values64
  | .uuid, _, _ => True
  | .instant, _, _ => True
  | .json, levels, j => IsReadable levels j
  | .list item, levels, xs => ∃ inner, levels = inner + 1 ∧ ∀ x ∈ xs, item.Admits inner x
  | .table value, levels, ms => ∃ inner, levels = inner + 1 ∧ Members (value.Admits inner) ms
  | .nullable _, _, none => True
  | .nullable inner, levels, some x => inner.Admits levels x
  | .choice _, _, _ => True
  | .record _ fields, levels, xs => ∃ inner, levels = inner + 1 ∧ fields.Admit inner xs

/-- Data of a record that a reader gives which may open so many levels. -/
def Fields.Admit : (fields : Fields) → (levels : Nat) → fields.Values → Prop
  | .nil, _, _ => True
  | .cons _ .required shape rest, levels, (x, xs) => shape.Admits levels x ∧ rest.Admit levels xs
  | .cons _ .optional shape rest, levels, (x, xs) =>
    (∀ y, x = some y → shape.Admits levels y) ∧ rest.Admit levels xs

end

/-- The fields of a record as far as they have been read. -/
def Fields.AdmitSlots : (fields : Fields) → (levels : Nat) → fields.Slots → Prop
  | .nil, _, _ => True
  | .cons _ _ shape rest, levels, (slot, slots) =>
    (∀ x, slot = some x → shape.Admits levels x) ∧ rest.AdmitSlots levels slots

/-- Slots that have not been filled are within any bound. -/
theorem Fields.admit_emptySlots (levels : Nat) : ∀ fields : Fields,
    fields.AdmitSlots levels fields.emptySlots
  | .nil => trivial
  | .cons _ _ _ rest => ⟨fun _ h => (nomatch h), rest.admit_emptySlots levels⟩

/-- What has been read is collected. -/
theorem Fields.admit_collect {levels : Nat} : ∀ {fields : Fields} {slots : fields.Slots}
    {xs : fields.Values}, fields.AdmitSlots levels slots → fields.collect slots = .ok xs →
      fields.Admit levels xs
  | .nil, _, _, _, _ => trivial
  | .cons name .required shape rest, (slot, slots), (x, xs), hSlots, h => by
    rw [collect] at h
    split at h
    · next y hSlot =>
      obtain ⟨ys, hRest, hEq⟩ := map_eq_ok.mp h
      cases hEq
      refine ⟨?_, admit_collect hSlots.2 hRest⟩
      rcases Option.or_eq_some_iff.mp hSlot with hRead | ⟨-, hAbsent⟩
      · exact hSlots.1 x hRead
      · cases shape with
        | nullable inner =>
          cases hAbsent
          trivial
        | _ => cases hAbsent
    · cases h
  | .cons name .optional shape rest, (slot, slots), (x, xs), hSlots, h => by
    rw [collect] at h
    obtain ⟨ys, hRest, hEq⟩ := map_eq_ok.mp h
    cases hEq
    exact ⟨hSlots.1, admit_collect hSlots.2 hRest⟩

/-- Text that has been read whole may be looked at once more. -/
theorem within_atRest {α : Type} {P : α → Prop} {x : Except Mismatch α}
    (h : ∀ y, x = .ok y → P y) :
    Within P (fun rest => atRest rest x) fun rest => atRest rest x := by
  refine within_self fun cs y rest hRead => ?_
  cases x with
  | error cause => cases hRead
  | ok z =>
    cases hRead
    exact h _ rfl

/-- A string is read as what is made of it. -/
theorem within_readTextAs {α : Type} {P : α → Prop} (fuel : Nat) (expected : String)
    {ofText : String → Except Mismatch α} (h : ∀ s x, ofText s = .ok x → P x) :
    Within P (readTextAs fuel expected ofText) (readTextAs fuel expected ofText) := by
  refine Within.onFirst fun c => within_ite (fun _ => ?_) fun _ =>
    within_readWrong fuel expected c _
  exact (within_trivial (readString fuel)).bind fun s _ => within_atRest (h s)

/-- A number is read as what is made of it. -/
theorem within_readNumberAs {α : Type} {P : α → Prop} (fuel : Nat) (expected : String)
    {ofNumber : Number → Except Mismatch α} (h : ∀ n x, ofNumber n = .ok x → P x) :
    Within P (readNumberAs fuel expected ofNumber) (readNumberAs fuel expected ofNumber) := by
  refine Within.onFirst fun c => within_ite (fun _ => ?_) fun _ => within_ite (fun _ => ?_)
    fun _ => within_readWrong fuel expected c _
  · exact (within_trivial (readNumber true)).bind fun n _ => within_atRest (h n)
  · exact (within_trivial fun cs => readNumber false (c :: cs)).bind fun n _ => within_atRest (h n)

/-- What is taken for a word of 64 bits is one. -/
theorem word64OfNumber_lt {n : Number} {m : Nat} (h : word64OfNumber n = .ok m) :
    m < Word.values64 := by
  cases n with
  | real x => cases h
  | integer n =>
    rw [word64OfNumber] at h
    split at h
    · next hRange =>
      cases h
      omega
    · cases h

theorem within_readFlag (fuel : Nat) : Within (fun _ => True) (readFlag fuel) (readFlag fuel) :=
  within_trivial _

/-- A choice opens one level at most, for an object with its name. -/
theorem within_readChoice (fuel : Nat) (names : List String) (levels more : Nat) :
    Within (fun _ => True) (readChoice fuel names levels)
      (readChoice fuel names (levels + more)) := by
  refine Within.onFirst fun c => within_ite (fun _ => within_trivial _) fun _ =>
    within_ite (fun _ => ?_) fun _ => within_trivial _
  exact Within.opening more fun _ => within_trivial _

/-- The end of a list. -/
theorem within_closeList {α : Type} {P : α → Prop} {x : α} (hx : P x) :
    Within P (fun cs => closeList cs >>= fun rest => .ok (x, rest))
      fun cs => closeList cs >>= fun rest => .ok (x, rest) := by
  refine within_self fun cs y rest h => ?_
  obtain ⟨rest', -, hEq⟩ := bind_eq_ok.mp h
  cases hEq
  exact hx

mutual

/-- **What a shape is read as** is admitted, and is the same for a reader that may go deeper. -/
theorem Shape.read_within (fuel more : Nat) : ∀ (shape : Shape) (levels : Nat),
    Within (shape.Admits levels) (shape.read fuel levels) (shape.read fuel (levels + more))
  | .text, _ => within_readTextAs fuel Shape.text.expected fun _ _ _ => trivial
  | .flag, _ => within_readFlag fuel
  | .word32, _ => within_readNumberAs fuel Shape.word32.expected fun _ _ _ => trivial
  | .word64, _ => within_readNumberAs fuel Shape.word64.expected fun _ _ h => word64OfNumber_lt h
  | .uuid, _ => within_readTextAs fuel Shape.uuid.expected fun _ _ _ => trivial
  | .instant, _ => within_readTextAs fuel Shape.instant.expected fun _ _ _ => trivial
  | .json, levels => readValue_within fuel more levels
  | .list item, levels => by
    refine Within.onFirst fun c => within_ite
      (fun _ => Within.opening more fun {inner} hLevels => ?_)
      fun _ => within_readWrong fuel _ c _
    intro cs xs rest h
    obtain ⟨hEach, h'⟩ := (item.read_within fuel more inner).readItems fuel 0 _ _ _ h
    exact ⟨⟨inner, hLevels, hEach⟩, h'⟩
  | .table value, levels => by
    refine Within.onFirst fun c => within_ite
      (fun _ => Within.opening more fun {inner} hLevels => ?_)
      fun _ => within_readWrong fuel _ c _
    intro cs ms rest h
    obtain ⟨hHeld, h'⟩ := (value.read_within fuel more inner).members fuel _ _ _ h
    exact ⟨⟨inner, hLevels, hHeld⟩, h'⟩
  | .nullable inner, levels => by
    rw [Shape.read, Shape.read]
    intro cs x rest h
    beta_reduce at h ⊢
    split at h
    · obtain ⟨_, -, hx⟩ := map_eq_ok.mp h
      cases hx
      exact ⟨trivial, h⟩
    · exact ((inner.read_within fuel more levels).map (f := some) fun _ hx => hx) _ _ _ h
  | .choice names, levels => within_readChoice fuel names levels more
  | .record name fields, levels => by
    refine Within.onFirst fun c => within_ite
      (fun _ => Within.opening more fun {inner} hLevels => ?_)
      fun _ => within_ite (fun _ => Within.opening more fun {inner} hLevels => ?_)
        fun _ => within_readWrong fuel _ c _
    · have hMembers := within_readMembers (fun wanted slots hSlots =>
        fields.readMember_within fuel more inner wanted slots hSlots) fuel true fields.emptySlots
        (fields.admit_emptySlots inner)
      exact hMembers.bind (f := fun slots rest => atRest rest (fields.collect slots))
        (g := fun slots rest => atRest rest (fields.collect slots)) fun slots hSlots =>
          within_atRest fun xs hxs => ⟨inner, hLevels, Fields.admit_collect hSlots hxs⟩
    · have hFields := fields.readList_within fuel more (fields.expectedLength name) inner 0
      exact hFields.bind (f := fun xs rest => closeList rest >>= fun rest => .ok (xs, rest))
        (g := fun xs rest => closeList rest >>= fun rest => .ok (xs, rest)) fun xs hxs =>
          within_closeList ⟨inner, hLevels, hxs⟩

/-- Reading one more member keeps the slots within what can be read. -/
theorem Fields.readMember_within (fuel more : Nat) : ∀ (fields : Fields) (levels : Nat)
    (wanted : String) (slots : fields.Slots), fields.AdmitSlots levels slots →
      Within (fields.AdmitSlots levels) (fields.readMember fuel levels wanted slots)
        (fields.readMember fuel (levels + more) wanted slots)
  | .nil, _, wanted, slots, _ => within_trivial _
  | .cons name presence shape rest, levels, wanted, (slot, slots), hSlots => by
    rw [Fields.readMember, Fields.readMember]
    by_cases hName : name = wanted
    · rw [if_pos hName, if_pos hName]
      by_cases hTaken : slot.isSome = true
      · rw [if_pos hTaken, if_pos hTaken]
        intro cs x rest h
        cases h
      · rw [if_neg hTaken, if_neg hTaken]
        refine Within.underName ?_ wanted
        refine (shape.read_within fuel more levels).map (f := fun x => (some x, slots))
          fun x hx => ⟨fun y hy => ?_, hSlots.2⟩
        cases hy
        exact hx
    · rw [if_neg hName, if_neg hName]
      exact (rest.readMember_within fuel more levels wanted slots hSlots.2).map
        (f := fun slots => (slot, slots)) fun _ hRest => ⟨hSlots.1, hRest⟩

/-- Reading fields off a list gives what can be read. -/
theorem Fields.readList_within (fuel more : Nat) : ∀ (fields : Fields) (expected : String)
    (levels place : Nat),
      Within (fields.Admit levels) (fields.readList fuel expected levels place)
        (fields.readList fuel expected (levels + more) place)
  | .nil, _, _, _ => within_pure trivial
  | .cons name presence shape rest, expected, levels, place => by
    have hItem := shape.read_within fuel more levels
    have hRest := rest.readList_within fuel more expected levels (place + 1)
    rw [Fields.readList, Fields.readList]
    intro cs xs tail h
    beta_reduce at h ⊢
    generalize nextItem (place == 0) cs = next at h ⊢
    rcases next with fault | ⟨_ | _, cs'⟩
    · cases h
    · cases presence with
      | required => cases h
      | optional =>
        obtain ⟨⟨ys, _⟩, hTail, hEq⟩ := bind_eq_ok.mp h
        cases hEq
        obtain ⟨hAdmit, hTail'⟩ := hRest _ _ _ hTail
        refine ⟨⟨fun _ hy => (nomatch hy), hAdmit⟩, ?_⟩
        simp only [hTail']
        rfl
    · simp only at h ⊢
      split at h
      · cases h
      · next x _ hRead =>
        obtain ⟨⟨ys, _⟩, hTail, hEq⟩ := bind_eq_ok.mp h
        obtain ⟨hx, hRead'⟩ := hItem _ _ _ hRead
        obtain ⟨hAdmit, hTail'⟩ := hRest _ _ _ hTail
        simp only [hRead']
        cases presence with
        | required =>
          cases hEq
          refine ⟨⟨hx, hAdmit⟩, ?_⟩
          simp only [hTail']
          rfl
        | optional =>
          cases hEq
          refine ⟨⟨fun y hy => ?_, hAdmit⟩, ?_⟩
          · cases hy
            exact hx
          · simp only [hTail']
            rfl

end

-- ---------------------------------------------------------------------------
-- Written forms
-- ---------------------------------------------------------------------------

/-- A reader gives what it may. -/
theorem Shape.admits_of_read {fuel levels : Nat} {shape : Shape} {cs rest : List Char}
    {x : shape.Value} (h : shape.read fuel levels cs = .ok (x, rest)) : shape.Admits levels x :=
  (shape.read_within fuel 0 levels _ _ _ h).1

/-- **Data that are parsed** are nested no deeper than the reader goes. -/
theorem Shape.admits_of_parse {shape : Shape} {text : String} {x : shape.Value}
    (h : shape.parse text = .ok x) : shape.Admits nestingLimit x := by
  obtain ⟨⟨y, rest⟩, hRead, hEnd⟩ := bind_eq_ok.mp h
  obtain ⟨_, -, hx⟩ := bind_eq_ok.mp hEnd
  cases hx
  exact Shape.admits_of_read hRead

/-- **The written form of data is read as the data or not at all**, and it is read only if the data
are not nested too deeply. -/
theorem Shape.eq_of_read_written (L : Layout) (level : Nat) {shape : Shape} {x y : shape.Value}
    (hWell : shape.isWellFormed = true) (hHolds : shape.Holds x)
    (hFree : (shape.encode x).isRealFree = true) {fuel : Nat} {cs behind rest : List Char}
    (hText : cs = written L level (shape.encode x) ++ behind) (hFuel : cs.length < fuel)
    (hBehind : NoNumber behind) (h : shape.read fuel nestingLimit cs = .ok (y, rest)) :
    y = x ∧ shape.Admits nestingLimit x := by
  have hEnough : (written L level (shape.encode x)).length < fuel := by
    rw [hText, List.length_append] at hFuel
    omega
  -- with levels enough for the data, both readings are the same
  obtain ⟨hAdmits, hMore⟩ := shape.read_within fuel (shape.encode x).depth nestingLimit _ _ _ h
  have hBack := shape.read_written L fuel x level (nestingLimit + (shape.encode x).depth) behind
    hWell hHolds hFree (Nat.le_add_left _ _) hEnough hBehind
  rw [← hText, hMore] at hBack
  cases hBack
  exact ⟨rfl, hAdmits⟩

/-- A text that holds the written form of data and blanks is read as the data or not at all. -/
theorem Shape.eq_of_parse_written (L : Layout) (level : Nat) {shape : Shape} {x y : shape.Value}
    (hWell : shape.isWellFormed = true) (hHolds : shape.Holds x)
    (hFree : (shape.encode x).isRealFree = true) {text : String} {blanks : List Char}
    (hText : text.toList = written L level (shape.encode x) ++ blanks)
    (hBlanks : ∀ c ∈ blanks, isBlank c = true) (h : shape.parse text = .ok y) :
    y = x ∧ shape.Admits nestingLimit x := by
  have hEnd : NoNumber blanks := by
    have := noNumber_blanks hBlanks noNumber_nil
    rwa [List.append_nil] at this
  obtain ⟨⟨z, rest⟩, hRead, hDone⟩ := bind_eq_ok.mp h
  obtain ⟨_, -, hz⟩ := bind_eq_ok.mp hDone
  cases hz
  exact shape.eq_of_read_written L level hWell hHolds hFree hText (Nat.lt_succ_self _) hEnd hRead

end Galley.Json
