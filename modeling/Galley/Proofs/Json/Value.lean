import Galley.Json.Reader

/-!
# Well-formed JSON values

What the values are that survive being written and read back, or being brought into canonical form:

* A value is *valid* if its integers are ones that the reader keeps exactly and the members of its
  objects stand in increasing order. Every value that the reader gives is of this kind.
* A value is *real-free* if all of its numbers are integers.
* Its *depth* is the number of lists and objects around its innermost part.

Main results:

* `insertAll_of_perm` — a table in order comes back from its members in any order.
* `canonical_eq_self` — a valid value is its own canonical form.
* `canonicalMembers_perm` — the canonical form of an object without repeated names only reorders
  its members.
-/

namespace Galley.Json

-- ---------------------------------------------------------------------------
-- Validity
-- ---------------------------------------------------------------------------

/-- The integers that the reader keeps exactly. -/
def isExact (n : Int) : Bool := -(Word.values63 : Int) ≤ n && n < Word.values64

/-- Whether members stand in increasing order of their names, without repetition. -/
def Increasing {α : Type} (members : List (String × α)) : Prop :=
  members.Pairwise fun a b => a.1 < b.1

instance {α : Type} (members : List (String × α)) : Decidable (Increasing members) :=
  inferInstanceAs (Decidable (members.Pairwise _))

mutual

/-- Whether a value is one that the reader can give. -/
def isValid : Json → Bool
  | .number (.integer n) => isExact n
  | .array items => areValid items
  | .object members => decide (Increasing members) && haveValid members
  | _ => true

/-- Whether all items are valid. -/
def areValid : List Json → Bool
  | [] => true
  | item :: items => isValid item && areValid items

/-- Whether the values of all members are valid. -/
def haveValid : List (String × Json) → Bool
  | [] => true
  | (_, value) :: rest => isValid value && haveValid rest

end

mutual

/-- Whether all numbers of a value are integers. -/
def isRealFree : Json → Bool
  | .number (.real _) => false
  | .array items => areRealFree items
  | .object members => haveRealFree members
  | _ => true

/-- Whether all numbers of the items are integers. -/
def areRealFree : List Json → Bool
  | [] => true
  | item :: items => isRealFree item && areRealFree items

/-- Whether all numbers of the members are integers. -/
def haveRealFree : List (String × Json) → Bool
  | [] => true
  | (_, value) :: rest => isRealFree value && haveRealFree rest

end

mutual

/-- How deep lists and objects are nested. -/
def depth : Json → Nat
  | .array items => depthOfItems items + 1
  | .object members => depthOfMembers members + 1
  | _ => 0

/-- The greatest depth of an item. -/
def depthOfItems : List Json → Nat
  | [] => 0
  | item :: items => max (depth item) (depthOfItems items)

/-- The greatest depth of a member. -/
def depthOfMembers : List (String × Json) → Nat
  | [] => 0
  | (_, value) :: rest => max (depth value) (depthOfMembers rest)

end

theorem areValid_iff {items : List Json} :
    areValid items = true ↔ ∀ item ∈ items, item.isValid = true := by
  induction items with
  | nil => simp [areValid]
  | cons item items ih => simp [areValid, ih]

theorem haveValid_iff {members : List (String × Json)} :
    haveValid members = true ↔ ∀ m ∈ members, m.2.isValid = true := by
  induction members with
  | nil => simp [haveValid]
  | cons m members ih => simp [haveValid, ih]

theorem areRealFree_iff {items : List Json} :
    areRealFree items = true ↔ ∀ item ∈ items, item.isRealFree = true := by
  induction items with
  | nil => simp [areRealFree]
  | cons item items ih => simp [areRealFree, ih]

theorem haveRealFree_iff {members : List (String × Json)} :
    haveRealFree members = true ↔ ∀ m ∈ members, m.2.isRealFree = true := by
  induction members with
  | nil => simp [haveRealFree]
  | cons m members ih => simp [haveRealFree, ih]

/-- Items are as deep as the deepest of them. -/
theorem depthOfItems_le_iff {items : List Json} {n : Nat} :
    depthOfItems items ≤ n ↔ ∀ item ∈ items, item.depth ≤ n := by
  induction items with
  | nil => simp [depthOfItems]
  | cons item items ih => rw [depthOfItems, Nat.max_le, ih, List.forall_mem_cons]

theorem depthOfMembers_le_iff {members : List (String × Json)} {n : Nat} :
    depthOfMembers members ≤ n ↔ ∀ m ∈ members, m.2.depth ≤ n := by
  induction members with
  | nil => simp [depthOfMembers]
  | cons m members ih => rw [depthOfMembers, Nat.max_le, ih, List.forall_mem_cons]

mutual

/-- Induction on a value: scalars, then lists by their items and objects by their members. -/
@[elab_as_elim]
theorem inductionOn {P : Json → Prop} (scalar : ∀ j : Json, j.depth = 0 → P j)
    (array : ∀ items, (∀ j ∈ items, P j) → P (.array items))
    (object : ∀ members : List (String × Json), (∀ m ∈ members, P m.2) → P (.object members)) :
    ∀ j, P j
  | .array items => array items (inductionOnItems scalar array object items)
  | .object members => object members (inductionOnMembers scalar array object members)
  | .null => scalar _ rfl
  | .bool _ => scalar _ rfl
  | .number _ => scalar _ rfl
  | .string _ => scalar _ rfl

theorem inductionOnItems {P : Json → Prop} (scalar : ∀ j : Json, j.depth = 0 → P j)
    (array : ∀ items, (∀ j ∈ items, P j) → P (.array items))
    (object : ∀ members : List (String × Json), (∀ m ∈ members, P m.2) → P (.object members)) :
    ∀ items : List Json, ∀ j ∈ items, P j
  | [], _, h => nomatch h
  | item :: items, j, h => by
    rcases List.mem_cons.mp h with hEq | h
    · rw [hEq]
      exact inductionOn scalar array object item
    · exact inductionOnItems scalar array object items j h

theorem inductionOnMembers {P : Json → Prop} (scalar : ∀ j : Json, j.depth = 0 → P j)
    (array : ∀ items, (∀ j ∈ items, P j) → P (.array items))
    (object : ∀ members : List (String × Json), (∀ m ∈ members, P m.2) → P (.object members)) :
    ∀ members : List (String × Json), ∀ m ∈ members, P m.2
  | [], _, h => nomatch h
  | (name, value) :: members, m, h => by
    rcases List.mem_cons.mp h with hEq | h
    · rw [hEq]
      exact inductionOn scalar array object value
    · exact inductionOnMembers scalar array object members m h

end

-- ---------------------------------------------------------------------------
-- Members in order
-- ---------------------------------------------------------------------------

section

variable {α : Type} {name : String} {value : α} {held : List (String × α)}

/-- A member of a table with one more is the new one or an old one. -/
theorem mem_insertMember {m : String × α} (h : m ∈ insertMember name value held) :
    m = (name, value) ∨ m ∈ held := by
  induction held with
  | nil => exact .inl (List.mem_singleton.mp h)
  | cons first held ih =>
    obtain ⟨other, x⟩ := first
    rw [insertMember] at h
    split at h
    · exact List.mem_cons.mp h
    split at h
    · rcases List.mem_cons.mp h with hNew | hOld
      · exact .inl hNew
      · exact .inr (List.mem_cons_of_mem _ hOld)
    · rcases List.mem_cons.mp h with hFirst | hRest
      · exact .inr (hFirst ▸ List.mem_cons_self)
      · rcases ih hRest with hNew | hOld
        · exact .inl hNew
        · exact .inr (List.mem_cons_of_mem _ hOld)

/-- Members in order stay in order. -/
theorem Increasing.insertMember (h : Increasing held) :
    Increasing (Json.insertMember name value held) := by
  induction held with
  | nil => exact List.pairwise_singleton _ _
  | cons first held ih =>
    obtain ⟨other, x⟩ := first
    obtain ⟨hFirst, hRest⟩ := List.pairwise_cons.mp h
    rw [Json.insertMember]
    split
    · next hLess =>
      refine List.pairwise_cons.mpr ⟨fun m hm => ?_, h⟩
      rcases List.mem_cons.mp hm with rfl | hm
      · exact hLess
      · exact String.lt_trans hLess (hFirst m hm)
    split
    · next hEq =>
      subst hEq
      exact List.pairwise_cons.mpr ⟨hFirst, hRest⟩
    · next hNotLess hNe =>
      have hLess : other < name :=
        Decidable.byContradiction fun hNot =>
          hNe (String.le_antisymm (String.not_lt.mp hNot) (String.not_lt.mp hNotLess))
      refine List.pairwise_cons.mpr ⟨fun m hm => ?_, ih hRest⟩
      rcases mem_insertMember hm with rfl | hm
      · exact hLess
      · exact hFirst m hm

/-- A member before all others is added at the front. -/
theorem insertMember_first (value : α) (h : ∀ m ∈ held, name < m.1) :
    insertMember name value held = (name, value) :: held := by
  cases held with
  | nil => rfl
  | cons m held => rw [insertMember, if_pos (h m List.mem_cons_self)]

/-- A member of a new name is added somewhere. -/
theorem insertMember_perm (value : α) (h : ∀ m ∈ held, m.1 ≠ name) :
    (insertMember name value held).Perm ((name, value) :: held) := by
  induction held with
  | nil => exact .refl _
  | cons m held ih =>
    obtain ⟨other, x⟩ := m
    have hNe : name ≠ other := fun hEq => h _ List.mem_cons_self hEq.symm
    have hRest := ih fun m hm => h m (List.mem_cons_of_mem _ hm)
    rw [insertMember, if_neg hNe]
    split
    · exact .refl _
    · exact (hRest.cons _).trans (.swap _ _ _)

/-- The order is a matter of the names alone. -/
theorem increasing_map {β : Type} {members : List (String × α)} (f : α → β) :
    Increasing (members.map fun m => (m.1, f m.2)) ↔ Increasing members := by
  rw [Increasing, List.pairwise_map]
  rfl

/-- No name is repeated in a table in order. -/
theorem Increasing.nodup_names (h : Increasing held) : (held.map Prod.fst).Nodup := by
  refine List.pairwise_map.mpr (h.imp fun hLess => ?_)
  intro hSame
  exact String.lt_irrefl _ (hSame ▸ hLess)

/-- A table has one order. -/
theorem Increasing.eq_of_perm {xs ys : List (String × α)} (hxs : Increasing xs)
    (hys : Increasing ys) (hPerm : xs.Perm ys) : xs = ys :=
  hPerm.eq_of_pairwise (fun _ _ _ _ hLess hMore => absurd hMore (String.lt_asymm hLess)) hxs hys

/-- The table with some more members, taken one after another. -/
def insertAll (held members : List (String × α)) : List (String × α) :=
  members.foldl (fun held m => insertMember m.1 m.2 held) held

/-- A table in order stays in order. -/
theorem Increasing.insertAll (members : List (String × α)) (h : Increasing held) :
    Increasing (Json.insertAll held members) := by
  induction members generalizing held with
  | nil => exact h
  | cons m members ih => exact ih h.insertMember

/-- Members of new names are all added somewhere. -/
theorem insertAll_perm (held members : List (String × α))
    (hNames : ((held ++ members).map Prod.fst).Nodup) :
    (insertAll held members).Perm (held ++ members) := by
  induction members generalizing held with
  | nil => rw [List.append_nil]; exact .refl held
  | cons m members ih =>
    obtain ⟨name, value⟩ := m
    have hMiddle : (held ++ (name, value) :: members).Perm ((name, value) :: held ++ members) :=
      List.perm_middle
    have hAll : (((name, value) :: held ++ members).map Prod.fst).Nodup :=
      (hMiddle.map Prod.fst).nodup_iff.mp hNames
    have hNew : ∀ m ∈ held, m.1 ≠ name := by
      intro m hm hSame
      have hIn : m.1 ∈ (held ++ members).map Prod.fst :=
        List.mem_map_of_mem (List.mem_append_left _ hm)
      exact (List.nodup_cons.mp hAll).1 (hSame ▸ hIn)
    have hNext :
        (insertMember name value held ++ members).Perm ((name, value) :: held ++ members) :=
      (insertMember_perm value hNew).append_right members
    exact (ih _ ((hNext.map Prod.fst).nodup_iff.mpr hAll)).trans (hNext.trans hMiddle.symm)

/-- **A table in order comes back from its members in any order.** -/
theorem insertAll_of_perm {xs ys : List (String × α)} (hxs : Increasing xs) (hPerm : xs.Perm ys) :
    insertAll [] ys = xs := by
  have hNames := (hPerm.map Prod.fst).nodup_iff.mp hxs.nodup_names
  have hIncreasing : Increasing (insertAll [] ys) := Increasing.insertAll ys .nil
  exact hIncreasing.eq_of_perm hxs ((insertAll_perm [] ys hNames).trans hPerm.symm)

end

-- ---------------------------------------------------------------------------
-- Canonical forms
-- ---------------------------------------------------------------------------

/-- Members are brought into canonical form and taken one after another. -/
theorem canonicalMembers_eq (sorted members : List (String × Json)) :
    canonicalMembers sorted members =
      insertAll sorted (members.map fun m => (m.1, m.2.canonical)) := by
  induction members generalizing sorted with
  | nil => rfl
  | cons m members ih => rw [canonicalMembers, ih]; rfl

/-- Members in increasing order keep it. -/
theorem canonicalMembers_of_increasing {members : List (String × Json)}
    (hIncreasing : Increasing members) :
    canonicalMembers [] members = members.map fun m => (m.1, m.2.canonical) := by
  rw [canonicalMembers_eq]
  exact insertAll_of_perm ((increasing_map canonical).mpr hIncreasing) (.refl _)

theorem canonicalItems_eq_map (items : List Json) :
    canonicalItems items = items.map canonical := by
  induction items with
  | nil => rfl
  | cons item items ih => rw [canonicalItems, ih, List.map_cons]

/-- **A valid value is its own canonical form.** -/
theorem canonical_eq_self {j : Json} (h : j.isValid = true) : j.canonical = j := by
  induction j using inductionOn with
  | scalar j hScalar =>
    cases j with
    | array items => exact absurd hScalar (Nat.succ_ne_zero _)
    | object members => exact absurd hScalar (Nat.succ_ne_zero _)
    | _ => rfl
  | array items ih =>
    have hItems : ∀ j ∈ items, j.canonical = j := fun j hj => ih j hj (areValid_iff.mp h j hj)
    rw [canonical, canonicalItems_eq_map, List.map_congr_left hItems, List.map_id']
  | object members ih =>
    rw [isValid, Bool.and_eq_true, decide_eq_true_eq] at h
    have hValues : ∀ m ∈ members, (m.1, m.2.canonical) = m := fun m hm => by
      rw [ih m hm (haveValid_iff.mp h.2 m hm)]
    rw [canonical, canonicalMembers_of_increasing h.1, List.map_congr_left hValues, List.map_id']

/-- **The canonical form of members without repeated names** has the same members, their values in
canonical form. -/
theorem canonicalMembers_perm {members : List (String × Json)}
    (hNames : (members.map Prod.fst).Nodup) :
    (canonicalMembers [] members).Perm (members.map fun m => (m.1, m.2.canonical)) := by
  rw [canonicalMembers_eq]
  exact insertAll_perm [] _ (by rwa [List.nil_append, List.map_map])

end Galley.Json
