import Galley.Proofs.Json.Reading

/-!
# What decoding gives

Decoding a value is tolerant. The members of an object may be unknown, repeated or missing, a record
may be a list of its fields, and an instant or an identifier may be spelled in many ways. What comes
out does not show any of this: from a value that a reader gives come data that a reader gives, so
they can be written and decoded again.

The tolerance has one limit. A field that must be there is not made up, so an object without a
member of its name is not decoded (`Fields.demands`). That is what keeps records of one shape from
being taken for records of another.

Main results:

* `Shape.admits_of_decode` — data decoded from a value that a reader gives are admitted.
* `Shape.demands_of_decode` — an object that is decoded has a member for every demanded field.
* `Shape.demands_of_decode_encode` — a written record has a field for each of them.
-/

namespace Galley.Json

-- ---------------------------------------------------------------------------
-- Parts of a value
-- ---------------------------------------------------------------------------

/-- The items of a list that can be read can be read one level further in. -/
theorem IsReadable.items {levels : Nat} {items : List Json} (h : IsReadable levels (.array items)) :
    ∃ inner, levels = inner + 1 ∧ ∀ j ∈ items, IsReadable inner j := by
  obtain ⟨hValid, hDepth⟩ := h
  cases levels with
  | zero => exact absurd hDepth (Nat.not_succ_le_zero _)
  | succ inner =>
    have hInner : depthOfItems items ≤ inner := Nat.le_of_succ_le_succ hDepth
    exact ⟨inner, rfl, fun j hj =>
      ⟨areValid_iff.mp hValid j hj, depthOfItems_le_iff.mp hInner j hj⟩⟩

theorem IsReadable.members {levels : Nat} {members : List (String × Json)}
    (h : IsReadable levels (.object members)) :
    ∃ inner, levels = inner + 1 ∧ ∀ m ∈ members, IsReadable inner m.2 := by
  obtain ⟨hValid, hDepth⟩ := h
  rw [isValid, Bool.and_eq_true] at hValid
  cases levels with
  | zero => exact absurd hDepth (Nat.not_succ_le_zero _)
  | succ inner =>
    have hInner : depthOfMembers members ≤ inner := Nat.le_of_succ_le_succ hDepth
    exact ⟨inner, rfl, fun m hm =>
      ⟨haveValid_iff.mp hValid.2 m hm, depthOfMembers_le_iff.mp hInner m hm⟩⟩

-- ---------------------------------------------------------------------------
-- Part by part
-- ---------------------------------------------------------------------------

section

variable {α β : Type} {P : α → Prop}

/-- What comes from the items of a list has a property if it comes from each item so. -/
theorem forall_of_mapM {decode : β → Except Mismatch α} :
    ∀ {js : List β} {xs : List α}, (∀ j ∈ js, ∀ x, decode j = .ok x → P x) →
      js.mapM decode = .ok xs → ∀ x ∈ xs, P x
  | [], xs, _, h => by
    cases h
    exact fun _ hx => nomatch hx
  | j :: js, xs, hEach, h => by
    rw [List.mapM_cons] at h
    obtain ⟨y, hFirst, h⟩ := bind_eq_ok.mp h
    obtain ⟨ys, hRest, hEq⟩ := bind_eq_ok.mp h
    cases hEq
    exact List.forall_mem_cons.mpr ⟨hEach j List.mem_cons_self y hFirst,
      forall_of_mapM (fun j hj => hEach j (List.mem_cons_of_mem _ hj)) hRest⟩

/-- The members of a table come in order. -/
theorem members_of_decodeTable {decode : Json → Except Mismatch α} :
    ∀ {ms : List (String × Json)} {xs : List (String × α)},
      (∀ m ∈ ms, ∀ x, decode m.2 = .ok x → P x) → decodeTable decode ms = .ok xs → Members P xs
  | [], _, _, h => by
    cases h
    exact members_nil P
  | (name, value) :: ms, _, hEach, h => by
    rw [decodeTable] at h
    obtain ⟨y, hFirst, h⟩ := bind_eq_ok.mp h
    obtain ⟨ys, hRest, hEq⟩ := bind_eq_ok.mp h
    cases hEq
    exact (members_of_decodeTable (fun m hm => hEach m (List.mem_cons_of_mem _ hm)) hRest).insert
      name (hEach _ List.mem_cons_self y hFirst)

/-- A property that taking a member preserves is one that taking all of them preserves. -/
theorem takeMembers_induction {take : String → Json → α → Except Mismatch α} :
    ∀ {ms : List (String × Json)} {state final : α},
      (∀ m ∈ ms, ∀ state next, P state → take m.1 m.2 state = .ok next → P next) →
      P state → takeMembers take state ms = .ok final → P final
  | [], _, _, _, hState, h => by
    cases h
    exact hState
  | m :: ms, _, _, hStep, hState, h => by
    obtain ⟨next, hNext, hRest⟩ := takeMembers_cons.mp h
    exact takeMembers_induction (fun m hm => hStep m (List.mem_cons_of_mem _ hm))
      (hStep m List.mem_cons_self _ _ hState hNext) hRest

end

-- ---------------------------------------------------------------------------
-- Data of any shape
-- ---------------------------------------------------------------------------

mutual

/-- **Data decoded from a value that a reader gives** are data that a reader gives. -/
theorem Shape.admits_of_decode : ∀ (shape : Shape) {levels : Nat} {j : Json} {x : shape.Value},
    IsReadable levels j → shape.decode j = .ok x → shape.Admits levels x
  | .text, _, _, _, _, _ => trivial
  | .flag, _, _, _, _, _ => trivial
  | .word32, _, _, _, _, _ => trivial
  | .word64, _, j, _, _, h => by
    cases j with
    | number n => exact word64OfNumber_lt h
    | _ => cases h
  | .uuid, _, _, _, _, _ => trivial
  | .instant, _, _, _, _, _ => trivial
  | .json, _, _, _, hReadable, h => by
    cases h
    exact hReadable
  | .list item, _, j, _, hReadable, h => by
    cases j with
    | array items =>
      obtain ⟨inner, hLevels, hEach⟩ := hReadable.items
      exact ⟨inner, hLevels,
        forall_of_mapM (fun j hj _ hx => item.admits_of_decode (hEach j hj) hx) h⟩
    | _ => cases h
  | .table value, _, j, _, hReadable, h => by
    cases j with
    | object members =>
      obtain ⟨inner, hLevels, hEach⟩ := hReadable.members
      exact ⟨inner, hLevels,
        members_of_decodeTable (fun m hm _ hx => value.admits_of_decode (hEach m hm) hx) h⟩
    | _ => cases h
  | .nullable inner, _, j, x, hReadable, h => by
    cases j with
    | null =>
      cases h
      trivial
    | _ =>
      obtain ⟨y, hRead, hEq⟩ := map_eq_ok.mp h
      cases hEq
      exact inner.admits_of_decode hReadable hRead
  | .choice _, _, _, _, _, _ => trivial
  | .record name fields, _, j, _, hReadable, h => by
    cases j with
    -- fields in any order: what the slots hold is readable member by member
    | object members =>
      obtain ⟨inner, hLevels, hEach⟩ := hReadable.members
      obtain ⟨slots, hTaken, hCollected⟩ := bind_eq_ok.mp h
      have hSlots : fields.AdmitSlots inner slots :=
        takeMembers_induction
          (fun m hm _ _ hBefore hTake => fields.admit_of_decodeMember (hEach m hm) hBefore hTake)
          (fields.admit_emptySlots inner) hTaken
      exact ⟨inner, hLevels, Fields.admit_collect hSlots hCollected⟩
    | array items =>
      obtain ⟨inner, hLevels, hEach⟩ := hReadable.items
      obtain ⟨xs, hRead, hEnd⟩ := bind_eq_ok.mp h
      split at hEnd
      · cases hEnd
        exact ⟨inner, hLevels, fields.admit_of_decodeList hEach hRead⟩
      · cases hEnd
    | _ => cases h

/-- Decoding one more member keeps the slots within what can be read. -/
theorem Fields.admit_of_decodeMember : ∀ (fields : Fields) {levels : Nat} {wanted : String}
    {value : Json} {slots next : fields.Slots}, IsReadable levels value →
      fields.AdmitSlots levels slots → fields.decodeMember wanted value slots = .ok next →
        fields.AdmitSlots levels next
  | .nil, _, _, _, _, _, _, _, _ => trivial
  | .cons name presence shape rest, _, wanted, _, (slot, slots), _, hReadable, hSlots, h => by
    rw [Fields.decodeMember] at h
    split at h
    · obtain ⟨x, hRead, hEq⟩ := map_eq_ok.mp h
      cases hEq
      refine ⟨fun y hy => ?_, hSlots.2⟩
      cases hy
      exact shape.admits_of_decode hReadable hRead
    · obtain ⟨others, hRest, hEq⟩ := map_eq_ok.mp h
      cases hEq
      exact ⟨hSlots.1, rest.admit_of_decodeMember hReadable hSlots.2 hRest⟩

/-- What is decoded from a list of readable items is within what can be read. -/
theorem Fields.admit_of_decodeList : ∀ (fields : Fields) {levels place : Nat} {expected : String}
    {items : List Json} {xs : fields.Values}, (∀ j ∈ items, IsReadable levels j) →
      fields.decodeList expected place items = .ok xs → fields.Admit levels xs
  | .nil, _, _, _, _, _, _, _ => trivial
  | .cons name .required shape rest, _, _, _, items, _, hEach, h => by
    cases items with
    | nil => cases h
    | cons item items =>
      obtain ⟨hItem, hItems⟩ := List.forall_mem_cons.mp hEach
      obtain ⟨x, hFirst, h⟩ := bind_eq_ok.mp h
      obtain ⟨xs, hRest, hEq⟩ := bind_eq_ok.mp h
      cases hEq
      exact ⟨shape.admits_of_decode hItem hFirst, rest.admit_of_decodeList hItems hRest⟩
  | .cons name .optional shape rest, _, _, _, items, _, hEach, h => by
    cases items with
    | nil =>
      obtain ⟨xs, hRest, hEq⟩ := map_eq_ok.mp h
      cases hEq
      exact ⟨fun _ hy => (nomatch hy), rest.admit_of_decodeList hEach hRest⟩
    | cons item items =>
      obtain ⟨hItem, hItems⟩ := List.forall_mem_cons.mp hEach
      obtain ⟨x, hFirst, h⟩ := bind_eq_ok.mp h
      obtain ⟨xs, hRest, hEq⟩ := bind_eq_ok.mp h
      cases hEq
      refine ⟨fun y hy => ?_, rest.admit_of_decodeList hItems hRest⟩
      cases hy
      exact shape.admits_of_decode hItem hFirst

end

-- ---------------------------------------------------------------------------
-- Fields that must be there
-- ---------------------------------------------------------------------------

/-- The names of the fields that an object must have. -/
def Fields.demands : Fields → List String
  | .nil => []
  | .cons _ .optional _ rest => rest.demands
  | .cons name .required shape rest =>
    if shape.ifAbsent.isSome then rest.demands else name :: rest.demands

/-- Only fields of the given names have been read. -/
def Fields.AreAmong : (fields : Fields) → (names : List String) → fields.Slots → Prop
  | .nil, _, _ => True
  | .cons name _ _ rest, names, (slot, slots) =>
    (slot.isSome = true → name ∈ names) ∧ rest.AreAmong names slots

/-- Before the first member no slot is filled. -/
theorem Fields.areAmong_emptySlots (names : List String) : ∀ fields : Fields,
    fields.AreAmong names fields.emptySlots
  | .nil => trivial
  | .cons _ _ _ rest => ⟨fun h => (nomatch h), rest.areAmong_emptySlots names⟩

/-- A member fills no slot but the one of its name. -/
theorem Fields.areAmong_of_decodeMember : ∀ (fields : Fields) {names : List String}
    {wanted : String} {value : Json} {slots next : fields.Slots}, wanted ∈ names →
      fields.AreAmong names slots → fields.decodeMember wanted value slots = .ok next →
        fields.AreAmong names next
  | .nil, _, _, _, _, _, _, _, _ => trivial
  | .cons name presence shape rest, _, wanted, _, (slot, slots), _, hWanted, hSlots, h => by
    rw [Fields.decodeMember] at h
    split at h
    · next hName =>
      obtain ⟨x, -, hEq⟩ := map_eq_ok.mp h
      cases hEq
      exact ⟨fun _ => hName ▸ hWanted, hSlots.2⟩
    · obtain ⟨others, hRest, hEq⟩ := map_eq_ok.mp h
      cases hEq
      exact ⟨hSlots.1, rest.areAmong_of_decodeMember hWanted hSlots.2 hRest⟩

/-- What is collected has all that is demanded. -/
theorem Fields.demands_of_collect {names : List String} : ∀ {fields : Fields}
    {slots : fields.Slots} {xs : fields.Values}, fields.AreAmong names slots →
      fields.collect slots = .ok xs → ∀ name ∈ fields.demands, name ∈ names
  | .nil, _, _, _, _, _, hName => nomatch hName
  | .cons _ .optional _ rest, (slot, slots), _, hSlots, h, name, hName => by
    obtain ⟨xs, hRest, -⟩ := map_eq_ok.mp h
    exact demands_of_collect hSlots.2 hRest name hName
  | .cons first .required shape rest, (slot, slots), _, hSlots, h, name, hName => by
    rw [collect] at h
    split at h
    · next x hSlot =>
      obtain ⟨xs, hRest, -⟩ := map_eq_ok.mp h
      have hOthers := demands_of_collect hSlots.2 hRest
      rw [demands] at hName
      split at hName
      · exact hOthers name hName
      · next hAbsent =>
        rcases List.mem_cons.mp hName with rfl | hName
        · cases slot with
          | some y => exact hSlots.1 rfl
          | none =>
            refine absurd ?_ hAbsent
            rw [show shape.ifAbsent = some x from hSlot]
            rfl
        · exact hOthers name hName
    · cases h

/-- **An object that is decoded as a record** has a member for every field that must be there. -/
theorem Shape.demands_of_decode {name : String} {fields : Fields} {members : List (String × Json)}
    {xs : fields.Values} (h : (Shape.record name fields).decode (.object members) = .ok xs) :
    ∀ field ∈ fields.demands, field ∈ members.map Prod.fst := by
  obtain ⟨slots, hTaken, hCollected⟩ := bind_eq_ok.mp h
  have hSlots : fields.AreAmong (members.map Prod.fst) slots :=
    takeMembers_induction
      (fun m hm _ _ hBefore hTake =>
        fields.areAmong_of_decodeMember (List.mem_map_of_mem hm) hBefore hTake)
      (fields.areAmong_emptySlots _) hTaken
  exact Fields.demands_of_collect hSlots hCollected

/-- **A written record that is decoded as a record of another shape** has a field for every one that
must be there. -/
theorem Shape.demands_of_decode_encode {name name' : String} {fields fields' : Fields}
    {xs : fields.Values} {ys : fields'.Values} (hWell : fields.areWellFormed = true)
    (h : (Shape.record name' fields').decode ((Shape.record name fields).encode xs).canonical =
      .ok ys) :
    ∀ field ∈ fields'.demands, field ∈ fields.names := by
  intro field hField
  have hNames : ((fields.encode xs).map Prod.fst).Nodup :=
    (fields.names_encode xs).nodup (Fields.nodup_names hWell)
  have hPerm := (canonicalMembers_perm hNames).map Prod.fst
  rw [List.map_map] at hPerm
  rw [Shape.encode, canonical] at h
  exact (fields.names_encode xs).subset
    (hPerm.mem_iff.mp (Shape.demands_of_decode h field hField))

end Galley.Json
