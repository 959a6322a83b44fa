import Galley.Json.Shape
import Galley.Proofs.Except
import Galley.Proofs.Identity.Uuid
import Galley.Proofs.Json.Value
import Galley.Proofs.Time.Timestamp

/-!
# Shapes decoded

Data of a shape are decoded from their JSON, also after its members have been put in order. A shape
must be *well-formed* for that: the names of its fields and choices differ, and what may be left out
is told from `null`. The data must be of a kind that can be written at all (`Shape.Holds`): numbers
fit their words, opaque values are valid, tables stand in order, and an optional field that is there
has a value.

The fields of a record are taken in the order in which the members come. Members of different names
can be taken in any order (`decodeMember_comm`), so the order of a canonical object does no harm.

Main results:

* `Fields.takeMembers_perm` — a record is decoded from its members in any order.
* `Shape.decode_canonical_encode` — data are decoded from the canonical form of their JSON.
-/

namespace Galley.Json

-- ---------------------------------------------------------------------------
-- Well-formed shapes
-- ---------------------------------------------------------------------------

/-- The names of the fields. -/
def Fields.names : Fields → List String
  | .nil => []
  | .cons name _ _ rest => name :: rest.names

/-- Whether data of a shape can be written as `null`. -/
def Shape.admitsNull : Shape → Bool
  | .json => true
  | .nullable _ => true
  | _ => false

mutual

/-- Whether the data of a shape can be told from their JSON. -/
def Shape.isWellFormed : Shape → Bool
  | .list item => item.isWellFormed
  | .table value => value.isWellFormed
  | .nullable inner => inner.isWellFormed && !inner.admitsNull
  | .choice names => decide names.Nodup
  | .record _ fields => fields.areWellFormed
  | _ => true

/-- Whether the fields have different names and well-formed shapes. -/
def Fields.areWellFormed : Fields → Bool
  | .nil => true
  | .cons name _ shape rest =>
    shape.isWellFormed && !rest.names.contains name && rest.areWellFormed

end

mutual

/-- Whether data of a shape are of a kind that can be written. -/
def Shape.Holds : (shape : Shape) → shape.Value → Prop
  | .text, _ => True
  | .flag, _ => True
  | .word32, _ => True
  | .word64, n => n < Word.values64
  | .uuid, _ => True
  | .instant, _ => True
  | .json, j => j.isValid = true
  | .list item, xs => ∀ x ∈ xs, item.Holds x
  | .table value, members => Increasing members ∧ ∀ m ∈ members, value.Holds m.2
  | .nullable _, none => True
  | .nullable inner, some x => inner.Holds x
  | .choice _, _ => True
  | .record _ fields, xs => fields.Hold xs

/-- Whether the data of a record are of a kind that can be written. -/
def Fields.Hold : (fields : Fields) → fields.Values → Prop
  | .nil, _ => True
  | .cons _ .required shape rest, (x, xs) => shape.Holds x ∧ rest.Hold xs
  | .cons _ .optional shape rest, (some x, xs) =>
    shape.isAbsent x = false ∧ shape.Holds x ∧ rest.Hold xs
  | .cons _ .optional _ rest, (none, xs) => rest.Hold xs

end

theorem Fields.wellFormed_cons {name : String} {presence : Presence} {shape : Shape} {rest : Fields}
    (h : (Fields.cons name presence shape rest).areWellFormed = true) :
    (shape.isWellFormed = true ∧ name ∉ rest.names) ∧ rest.areWellFormed = true := by
  simpa only [areWellFormed, Bool.and_eq_true, Bool.not_eq_true', List.contains_eq_mem,
    decide_eq_false_iff_not] using h

/-- Well-formed fields have different names. -/
theorem Fields.nodup_names : ∀ {fields : Fields}, fields.areWellFormed = true →
    fields.names.Nodup
  | .nil, _ => List.nodup_nil
  | .cons _ _ _ _, h =>
    List.nodup_cons.mpr ⟨(wellFormed_cons h).1.2, nodup_names (wellFormed_cons h).2⟩

-- ---------------------------------------------------------------------------
-- Leaves
-- ---------------------------------------------------------------------------

/-- A word of 32 bits is taken back from its number. -/
theorem word32OfNumber_toNat (n : UInt32) :
    word32OfNumber (.integer (n.toNat : Int)) = .ok n := by
  have hRange : (0 : Int) ≤ n.toNat ∧ (n.toNat : Int) < Word.values32 :=
    ⟨Int.natCast_nonneg _, Int.ofNat_lt.mpr n.toNat_lt⟩
  rw [word32OfNumber, if_pos hRange, Int.toNat_natCast, UInt32.ofNat_toNat]

theorem word64OfNumber_nat {n : Nat} (h : n < Word.values64) :
    word64OfNumber (.integer (n : Int)) = .ok n := by
  have hRange : (0 : Int) ≤ n ∧ (n : Int) < Word.values64 :=
    ⟨Int.natCast_nonneg _, Int.ofNat_lt.mpr h⟩
  rw [word64OfNumber, if_pos hRange, Int.toNat_natCast]

/-- An identifier is taken back from its text. -/
theorem uuidOfText_toText (u : Uuid) : uuidOfText u.toText = .ok u := by
  rw [uuidOfText, Uuid.read_toText]

theorem instantOfText_print (t : Instant) : instantOfText (Time.print t) = .ok t := by
  rw [instantOfText, Time.read_print]

/-- A choice is taken back from its name, if the names differ. -/
theorem choiceOfText_get {names : List String} (h : names.Nodup) (i : Fin names.length) :
    choiceOfText names (names.get i) = .ok i := by
  have hIndex : names.idxOf (names.get i) = i := h.idxOf_getElem i i.isLt
  rw [choiceOfText, dif_pos (by rw [hIndex]; exact i.isLt)]
  simp only [hIndex]

-- ---------------------------------------------------------------------------
-- Members in any order
-- ---------------------------------------------------------------------------

/-- Members of different names can be taken in any order. -/
theorem Fields.decodeMember_comm : ∀ (fields : Fields) {a b : String} {x y : Json}
    {slots next final : fields.Slots}, a ≠ b →
    fields.decodeMember a x slots = .ok next → fields.decodeMember b y next = .ok final →
      ∃ between, fields.decodeMember b y slots = .ok between ∧
        fields.decodeMember a x between = .ok final
  | .nil, _, _, _, _, _, _, _, _, _, _ => ⟨_, rfl, rfl⟩
  | .cons name presence shape rest, a, b, x, y, (slot, slots), (mid, mids), (last, lasts), hNe,
      hFirst, hSecond => by
    simp only [decodeMember] at hFirst hSecond ⊢
    by_cases ha : name = a
    · have hb : ¬ name = b := fun hb => hNe (ha.symm.trans hb)
      simp only [if_pos ha, if_neg hb, map_eq_ok] at hFirst hSecond ⊢
      obtain ⟨v, hv, hMid⟩ := hFirst
      obtain ⟨w, hw, hLast⟩ := hSecond
      cases hMid
      cases hLast
      exact ⟨_, ⟨_, hw, rfl⟩, _, hv, rfl⟩
    · by_cases hb : name = b
      · simp only [if_neg ha, if_pos hb, map_eq_ok] at hFirst hSecond ⊢
        obtain ⟨v, hv, hMid⟩ := hFirst
        obtain ⟨w, hw, hLast⟩ := hSecond
        cases hMid
        cases hLast
        exact ⟨_, ⟨_, hw, rfl⟩, _, hv, rfl⟩
      · simp only [if_neg ha, if_neg hb, map_eq_ok] at hFirst hSecond ⊢
        obtain ⟨v, hv, hMid⟩ := hFirst
        obtain ⟨w, hw, hLast⟩ := hSecond
        cases hMid
        cases hLast
        obtain ⟨t, ht, hFinal⟩ := rest.decodeMember_comm hNe hv hw
        exact ⟨_, ⟨t, ht, rfl⟩, _, hFinal, rfl⟩

theorem takeMembers_cons {σ : Type} {take : String → Json → σ → Except Mismatch σ}
    {m : String × Json} {ms : List (String × Json)} {state final : σ} :
    takeMembers take state (m :: ms) = .ok final ↔
      ∃ next, take m.1 m.2 state = .ok next ∧ takeMembers take next ms = .ok final := by
  obtain ⟨name, value⟩ := m
  rw [takeMembers, bind_eq_ok]

/-- **A record is decoded from its members in any order**, if no name is repeated. -/
theorem Fields.takeMembers_perm (fields : Fields) {ms ms' : List (String × Json)}
    (hPerm : ms.Perm ms') (hNames : (ms.map Prod.fst).Nodup) {slots final : fields.Slots}
    (hTaken : takeMembers fields.decodeMember slots ms = .ok final) :
    takeMembers fields.decodeMember slots ms' = .ok final := by
  induction hPerm generalizing slots final with
  | nil => exact hTaken
  | cons m _ ih =>
    obtain ⟨next, hNext, hRest⟩ := takeMembers_cons.mp hTaken
    exact takeMembers_cons.mpr ⟨next, hNext, ih (List.nodup_cons.mp hNames).2 hRest⟩
  | swap m m' ms =>
    obtain ⟨next, hNext, hRest⟩ := takeMembers_cons.mp hTaken
    obtain ⟨after, hAfter, hRest⟩ := takeMembers_cons.mp hRest
    have hNe : m'.1 ≠ m.1 := by
      intro hEq
      refine (List.nodup_cons.mp hNames).1 ?_
      rw [hEq]
      exact List.mem_cons_self
    obtain ⟨between, hBetween, hFinal⟩ := fields.decodeMember_comm hNe hNext hAfter
    exact takeMembers_cons.mpr ⟨between, hBetween, takeMembers_cons.mpr ⟨after, hFinal, hRest⟩⟩
  | trans hFirst _ ihFirst ihSecond =>
    exact ihSecond ((hFirst.map Prod.fst).nodup_iff.mp hNames) (ihFirst hNames hTaken)

-- ---------------------------------------------------------------------------
-- Fields
-- ---------------------------------------------------------------------------

/-- The fields as they stand when a whole record has been taken. -/
def Fields.filledWith : (fields : Fields) → fields.Values → fields.Slots
  | .nil, _ => ()
  | .cons _ .required shape rest, (x, xs) =>
    (if shape.isAbsent x then none else some x, rest.filledWith xs)
  | .cons _ .optional _ rest, (x, xs) => (x, rest.filledWith xs)

/-- Data that are left out are those that stand for nothing. -/
theorem Shape.ifAbsent_of_isAbsent {shape : Shape} {x : shape.Value} (h : shape.isAbsent x = true) :
    shape.ifAbsent = some x := by
  cases shape with
  | nullable inner =>
    cases x with
    | none => rfl
    | some x => exact Bool.noConfusion h
  | _ => exact Bool.noConfusion h

/-- A whole record is collected. -/
theorem Fields.collect_filledWith : ∀ (fields : Fields) (xs : fields.Values),
    fields.collect (fields.filledWith xs) = .ok xs
  | .nil, () => rfl
  | .cons name .required shape rest, (x, xs) => by
    have ih := rest.collect_filledWith xs
    rw [filledWith, collect]
    cases hAbsent : shape.isAbsent x with
    | false => simp [ih, Except.map]
    | true => simp [ih, Shape.ifAbsent_of_isAbsent hAbsent, Except.map]
  | .cons name .optional shape rest, (x, xs) => by
    rw [filledWith, collect, rest.collect_filledWith xs]
    rfl

/-- The members of a record have the names of its fields, in order. -/
theorem Fields.names_encode : ∀ (fields : Fields) (xs : fields.Values),
    ((fields.encode xs).map Prod.fst).Sublist fields.names
  | .nil, _ => List.Sublist.refl _
  | .cons name .required shape rest, (x, xs) => by
    rw [encode, names]
    split
    · exact (rest.names_encode xs).cons _
    · exact (rest.names_encode xs).cons_cons _
  | .cons name .optional shape rest, (some x, xs) => by
    rw [encode, names]
    split
    · exact (rest.names_encode xs).cons _
    · exact (rest.names_encode xs).cons_cons _
  | .cons name .optional shape rest, (none, xs) => by
    rw [encode, names]
    exact (rest.names_encode xs).cons _

/-- Members of other names leave a field alone. -/
theorem Fields.takeMembers_skip {name : String} {presence : Presence} {shape : Shape}
    {rest : Fields} (slot : Option shape.Value) :
    ∀ {ms : List (String × Json)} {slots final : rest.Slots}, (∀ m ∈ ms, name ≠ m.1) →
      takeMembers rest.decodeMember slots ms = .ok final →
        takeMembers (Fields.cons name presence shape rest).decodeMember (slot, slots) ms =
          .ok (slot, final)
  | [], _, _, _, hTaken => by
    cases hTaken
    rfl
  | (other, value) :: ms, slots, final, hNames, hTaken => by
    obtain ⟨next, hNext, hRest⟩ := takeMembers_cons.mp hTaken
    refine takeMembers_cons.mpr ⟨(slot, next), ?_, takeMembers_skip slot
      (fun m hm => hNames m (List.mem_cons_of_mem _ hm)) hRest⟩
    rw [decodeMember, if_neg (hNames _ List.mem_cons_self), hNext]
    rfl

/-- The members of the other fields have other names. -/
theorem Fields.ne_of_mem_encode {name : String} {rest : Fields} (hNew : name ∉ rest.names)
    (xs : rest.Values) : ∀ m ∈ rest.encode xs, name ≠ m.1 := by
  rintro m hm rfl
  exact hNew ((rest.names_encode xs).subset (List.mem_map_of_mem hm))

theorem Fields.ne_of_mem_canonical {name : String} (rest : Fields) (hNew : name ∉ rest.names)
    (xs : rest.Values) :
    ∀ m ∈ (rest.encode xs).map fun m => (m.1, m.2.canonical), name ≠ m.1 := by
  intro m hm
  obtain ⟨held, hHeld, rfl⟩ := List.mem_map.mp hm
  exact ne_of_mem_encode hNew xs held hHeld

-- ---------------------------------------------------------------------------
-- Data of any shape
-- ---------------------------------------------------------------------------

/-- A list is decoded back if each of its items is. -/
theorem mapM_map_eq_ok {α β : Type} {decode : β → Except Mismatch α} {encode : α → β} :
    ∀ {xs : List α}, (∀ x ∈ xs, decode (encode x) = .ok x) → (xs.map encode).mapM decode = .ok xs
  | [], _ => rfl
  | x :: xs, h => by
    rw [List.map_cons, List.mapM_cons, h x List.mem_cons_self,
      mapM_map_eq_ok fun y hy => h y (List.mem_cons_of_mem _ hy)]
    rfl

/-- A table in increasing order is decoded as it is. -/
theorem decodeTable_map {α : Type} {decode : Json → Except Mismatch α} (encode : α → Json) :
    ∀ {members : List (String × α)}, Increasing members →
      (∀ m ∈ members, decode (encode m.2) = .ok m.2) →
      decodeTable decode (members.map fun m => (m.1, encode m.2)) = .ok members
  | [], _, _ => rfl
  | (name, x) :: members, hIncreasing, h => by
    obtain ⟨hFirst, hRest⟩ := List.pairwise_cons.mp hIncreasing
    rw [List.map_cons, decodeTable, h _ List.mem_cons_self,
      decodeTable_map encode hRest fun m hm => h m (List.mem_cons_of_mem _ hm)]
    show Except.ok (insertMember name x members) = _
    rw [insertMember_first x hFirst]

/-- The JSON of data that are not `null` is not either. -/
theorem Shape.canonical_encode_ne_null {shape : Shape} (hNull : shape.admitsNull = false)
    (x : shape.Value) : (shape.encode x).canonical ≠ .null := by
  cases shape with
  | json => exact Bool.noConfusion hNull
  | nullable inner => exact Bool.noConfusion hNull
  | _ => exact fun h => nomatch h

/-- What is not null is decoded as what may be null. -/
theorem Shape.decode_nullable {inner : Shape} {j : Json} (h : j ≠ .null) :
    (Shape.nullable inner).decode j = (inner.decode j).map some := by
  cases j with
  | null => exact absurd rfl h
  | _ => rfl

mutual

/-- **Data are decoded from the canonical form of their JSON.** -/
theorem Shape.decode_canonical_encode : ∀ (shape : Shape) (x : shape.Value),
    shape.isWellFormed = true → shape.Holds x →
      shape.decode (shape.encode x).canonical = .ok x
  | .text, _, _, _ => rfl
  | .flag, _, _, _ => rfl
  | .word32, n, _, _ => word32OfNumber_toNat n
  | .word64, n, _, hHolds => by
    have hWord : n < Word.values64 := by rwa [Shape.Holds] at hHolds
    show word64OfNumber (.integer (n : Int)) = _
    exact word64OfNumber_nat hWord
  | .uuid, u, _, _ => uuidOfText_toText u
  | .instant, t, _, _ => instantOfText_print t
  | .json, j, _, hHolds => by
    rw [Shape.encode, canonical_eq_self hHolds]
    rfl
  | .list item, xs, hWell, hHolds => by
    rw [Shape.encode, canonical, canonicalItems_eq_map, List.map_map]
    exact mapM_map_eq_ok fun x hx => item.decode_canonical_encode x hWell (hHolds x hx)
  | .table value, members, hWell, hHolds => by
    have hIncreasing := (increasing_map value.encode).mpr hHolds.1
    rw [Shape.encode, canonical, canonicalMembers_of_increasing hIncreasing, List.map_map]
    exact decodeTable_map (fun x => (value.encode x).canonical) hHolds.1
      fun m hm => value.decode_canonical_encode m.2 hWell (hHolds.2 m hm)
  | .nullable _, none, _, _ => rfl
  | .nullable inner, some x, hWell, hHolds => by
    simp only [Shape.isWellFormed, Bool.and_eq_true, Bool.not_eq_true'] at hWell
    rw [Shape.encode, Shape.decode_nullable (Shape.canonical_encode_ne_null hWell.2 x),
      inner.decode_canonical_encode x hWell.1 hHolds]
    rfl
  | .choice names, i, hWell, _ => choiceOfText_get (of_decide_eq_true hWell) i
  | .record name fields, xs, hWell, hHolds => by
    have hNames : ((fields.encode xs).map Prod.fst).Nodup :=
      (fields.names_encode xs).nodup (Fields.nodup_names hWell)
    have hPerm := canonicalMembers_perm hNames
    have hNodup : (((fields.encode xs).map fun m => (m.1, m.2.canonical)).map Prod.fst).Nodup := by
      rw [List.map_map]
      exact hNames
    have hTaken := fields.takeMembers_perm hPerm.symm hNodup
      (fields.takeMembers_encode xs hWell hHolds)
    rw [Shape.encode, canonical, Shape.decode, hTaken]
    exact fields.collect_filledWith xs

/-- The members of a record are taken field by field. -/
theorem Fields.takeMembers_encode : ∀ (fields : Fields) (xs : fields.Values),
    fields.areWellFormed = true → fields.Hold xs →
      takeMembers fields.decodeMember fields.emptySlots
          ((fields.encode xs).map fun m => (m.1, m.2.canonical)) =
        .ok (fields.filledWith xs)
  | .nil, _, _, _ => rfl
  | .cons name .required shape rest, (x, xs), hWell, hHolds => by
    obtain ⟨⟨hShape, hNew⟩, hRest⟩ := Fields.wellFormed_cons hWell
    have hOther := rest.ne_of_mem_canonical hNew xs
    have hTaken := rest.takeMembers_encode xs hRest hHolds.2
    rw [Fields.encode, Fields.filledWith]
    split
    · exact Fields.takeMembers_skip none hOther hTaken
    · refine takeMembers_cons.mpr ⟨(some x, rest.emptySlots), ?_,
        Fields.takeMembers_skip (some x) hOther hTaken⟩
      rw [Fields.emptySlots, Fields.decodeMember, if_pos rfl,
        shape.decode_canonical_encode x hShape hHolds.1]
      rfl
  | .cons name .optional shape rest, (some x, xs), hWell, hHolds => by
    obtain ⟨⟨hShape, hNew⟩, hRest⟩ := Fields.wellFormed_cons hWell
    have hOther := rest.ne_of_mem_canonical hNew xs
    have hTaken := rest.takeMembers_encode xs hRest hHolds.2.2
    have hPresent : ¬ shape.isAbsent x = true := by rw [hHolds.1]; exact Bool.noConfusion
    rw [Fields.encode, if_neg hPresent]
    refine takeMembers_cons.mpr ⟨(some x, rest.emptySlots), ?_,
      Fields.takeMembers_skip (some x) hOther hTaken⟩
    rw [Fields.emptySlots, Fields.decodeMember, if_pos rfl,
      shape.decode_canonical_encode x hShape hHolds.2.1]
    rfl
  | .cons name .optional shape rest, (none, xs), hWell, hHolds => by
    obtain ⟨⟨-, hNew⟩, hRest⟩ := Fields.wellFormed_cons hWell
    rw [Fields.encode]
    exact Fields.takeMembers_skip none (rest.ne_of_mem_canonical hNew xs)
      (rest.takeMembers_encode xs hRest hHolds)

end

end Galley.Json
