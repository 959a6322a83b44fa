import Mathlib.Data.List.Nodup
import Galley.Projection.Summary
import Galley.Proofs.Json.Shape

/-!
# Catalogs in order

The rows of a catalog stand in the order of their identifiers, one row for each template. As long as
that is so (`Catalog.IsOrdered`), a catalog is known from its rows in any order: putting them in one
after another gives the same catalog again. This is what a restart lives on, since a checkpoint
holds the rows as they are listed, newest first.

Main results:

* `get?_insert` — what an inserted row changes.
* `IsOrdered.insert` — a catalog stays in order.
* `IsOrdered.ofList_eq` — a catalog is made again from its rows in any order.
* `IsOrdered.ofJson_toJson`, `IsOrdered.ofJson_canonical` — a catalog is read back from its JSON.
-/

namespace Galley

-- ---------------------------------------------------------------------------
-- The order of identifiers
-- ---------------------------------------------------------------------------

namespace Uuid

variable {a b : Uuid}

theorem compare_eq_lt : a.compare b = .lt ↔ a.value < b.value := Nat.compare_eq_lt

theorem compare_eq_gt : a.compare b = .gt ↔ b.value < a.value := Nat.compare_eq_gt

theorem compare_eq_eq : a.compare b = .eq ↔ a = b := by
  obtain ⟨a⟩ := a
  obtain ⟨b⟩ := b
  rw [compare, Nat.compare_eq_eq, Fin.val_inj, mk.injEq]

end Uuid

-- ---------------------------------------------------------------------------
-- Summaries as JSON
-- ---------------------------------------------------------------------------

/-- A row is read back from its JSON. -/
theorem Summary.decode_toJson (s : Summary) : shape.decode s.toJson = .ok s.toData := by
  simp [toJson, toData, Json.Shape.encode, Json.Fields.encode, Json.Shape.isAbsent,
    Json.Shape.decode, Json.takeMembers, Json.Fields.emptySlots, Json.Fields.decodeMember,
    Json.uuidOfText_toText, Json.instantOfText_print, Json.Fields.collect, Except.map, bind,
    Except.bind]

namespace Catalog

/-- The rows stand in the order of their identifiers. -/
def IsOrdered (c : Catalog) : Prop := c.rows.Pairwise fun a b => a.id.value < b.id.value

variable {c d : Catalog} {s row : Summary} {rows : List Summary} {id : Uuid}

-- ---------------------------------------------------------------------------
-- Inserting a row
-- ---------------------------------------------------------------------------

/-- Inserting a row brings no other row with it. -/
theorem mem_insertRow (h : row ∈ insertRow s rows) : row = s ∨ row ∈ rows := by
  induction rows with
  | nil => exact .inl (List.mem_singleton.mp h)
  | cons first rest ih =>
    rw [insertRow] at h
    split at h
    · exact List.mem_cons.mp h
    · exact (List.mem_cons.mp h).imp_right (List.mem_cons_of_mem _)
    · rcases List.mem_cons.mp h with rfl | h
      · exact .inr List.mem_cons_self
      · exact (ih h).imp_right (List.mem_cons_of_mem _)

/-- **A catalog stays in order** when a row is inserted. -/
theorem IsOrdered.insert (h : c.IsOrdered) (s : Summary) : (c.insert s).IsOrdered := by
  obtain ⟨rows⟩ := c
  rw [IsOrdered] at h ⊢
  rw [Catalog.insert]
  induction rows with
  | nil => exact List.pairwise_singleton _ _
  | cons first rest ih =>
    obtain ⟨hFirst, hRest⟩ := List.pairwise_cons.mp h
    simp only [insertRow]
    split
    · next hLess =>
      have hBelow := Uuid.compare_eq_lt.mp hLess
      refine List.pairwise_cons.mpr ⟨List.forall_mem_cons.mpr ⟨hBelow, fun row hRow => ?_⟩, h⟩
      exact Nat.lt_trans hBelow (hFirst row hRow)
    · next hSame =>
      rw [← Uuid.compare_eq_eq.mp hSame] at hFirst
      exact List.pairwise_cons.mpr ⟨hFirst, hRest⟩
    · next hGreater =>
      refine List.pairwise_cons.mpr ⟨fun row hRow => ?_, ih hRest⟩
      rcases mem_insertRow hRow with rfl | hRow
      · exact Uuid.compare_eq_gt.mp hGreater
      · exact hFirst row hRow

theorem find?_cons_id : (row :: rows).find? (fun s => s.id == id) =
    if id = row.id then some row else rows.find? fun s => s.id == id := by
  rw [List.find?_cons]
  by_cases h : id = row.id
  · rw [if_pos h, beq_iff_eq.mpr h.symm]
  · rw [if_neg h, beq_eq_false_iff_ne.mpr (Ne.symm h)]

/-- **What an inserted row changes**: its template has that row from then on, and the others have
the rows that they had. -/
theorem get?_insert (c : Catalog) (s : Summary) (id : Uuid) :
    (c.insert s).get? id = if id = s.id then some s else c.get? id := by
  obtain ⟨rows⟩ := c
  rw [get?, get?, Catalog.insert]
  induction rows with
  | nil => exact find?_cons_id
  | cons first rest ih =>
    simp only [insertRow]
    split
    · exact find?_cons_id
    · next hSame =>
      rw [find?_cons_id, find?_cons_id, Uuid.compare_eq_eq.mp hSame]
      split <;> rfl
    · next hGreater =>
      -- the row goes further down, and this one is of another template
      have hOther : first.id ≠ s.id := fun hSame =>
        absurd (Uuid.compare_eq_gt.mp hGreater) (by rw [hSame]; exact Nat.lt_irrefl _)
      rw [find?_cons_id, find?_cons_id, ih]
      by_cases hFirst : id = first.id
      · rw [if_pos hFirst, if_pos hFirst, if_neg (hFirst ▸ hOther)]
      · rw [if_neg hFirst, if_neg hFirst]

-- ---------------------------------------------------------------------------
-- Rows and templates
-- ---------------------------------------------------------------------------

theorem isOrdered_empty : empty.IsOrdered := List.Pairwise.nil

/-- A row that is found has the identifier that was looked for. -/
theorem id_of_get? (h : c.get? id = some row) : row.id = id := by
  have hFound := List.find?_some h
  exact beq_iff_eq.mp hFound

/-- The templates that have a row. -/
theorem mem_ids_iff : id ∈ c.rows.map Summary.id ↔ ∃ row, c.get? id = some row := by
  constructor
  · intro h
    obtain ⟨row, hRow, rfl⟩ := List.mem_map.mp h
    exact Option.isSome_iff_exists.mp (List.find?_isSome.mpr ⟨row, hRow, beq_self_eq_true _⟩)
  · rintro ⟨row, hRow⟩
    exact List.mem_map.mpr ⟨row, List.mem_of_find?_eq_some hRow, id_of_get? hRow⟩

/-- Rows in order have different identifiers. -/
theorem IsOrdered.nodup_ids (h : c.IsOrdered) : (c.rows.map Summary.id).Nodup := by
  refine List.pairwise_map.mpr (List.Pairwise.imp (fun hLess hSame => ?_) h)
  rw [hSame] at hLess
  exact Nat.lt_irrefl _ hLess

/-- Every row is the one that its template has. -/
theorem IsOrdered.get?_of_mem (h : c.IsOrdered) (hRow : row ∈ c.rows) :
    c.get? row.id = some row := by
  obtain ⟨other, hOther⟩ := mem_ids_iff.mp (List.mem_map_of_mem hRow)
  rw [hOther, List.inj_on_of_nodup_map h.nodup_ids (List.mem_of_find?_eq_some hOther) hRow
    (id_of_get? hOther)]

/-- In order, every row is found under its identifier. -/
theorem IsOrdered.get?_eq_some_iff (h : c.IsOrdered) :
    c.get? id = some row ↔ row ∈ c.rows ∧ row.id = id := by
  constructor
  · intro hRow
    exact ⟨List.mem_of_find?_eq_some hRow, id_of_get? hRow⟩
  · rintro ⟨hRow, rfl⟩
    exact h.get?_of_mem hRow

-- ---------------------------------------------------------------------------
-- Rows in any order
-- ---------------------------------------------------------------------------

/-- Two catalogs in order that have the same rows are the same. -/
theorem IsOrdered.eq_of_perm (hc : c.IsOrdered) (hd : d.IsOrdered) (h : c.rows.Perm d.rows) :
    c = d := by
  have hRows : c.rows = d.rows :=
    h.eq_of_pairwise (fun _ _ _ _ hab hba => absurd hab (Nat.lt_asymm hba)) hc hd
  obtain ⟨_⟩ := c
  obtain ⟨_⟩ := d
  exact congrArg mk hRows

/-- Two catalogs in order are the same if look-ups in them give the same. -/
theorem IsOrdered.eq_of_get? (hc : c.IsOrdered) (hd : d.IsOrdered)
    (h : ∀ id, c.get? id = d.get? id) : c = d := by
  have hMem {a : Catalog} (ha : a.IsOrdered) (row : Summary) :
      a.get? row.id = some row ↔ row ∈ a.rows := by
    rw [ha.get?_eq_some_iff, and_iff_left rfl]
  have hRows (row : Summary) : row ∈ c.rows ↔ row ∈ d.rows := by
    rw [← hMem hc, h, hMem hd]
  have hNodup {a : Catalog} (ha : a.IsOrdered) : a.rows.Nodup := ha.nodup_ids.of_map _
  exact hc.eq_of_perm hd ((List.perm_ext_iff_of_nodup (hNodup hc) (hNodup hd)).mpr hRows)

/-- A row of a new template is put among the others. -/
theorem insertRow_perm (h : s.id ∉ rows.map Summary.id) : (insertRow s rows).Perm (s :: rows) := by
  induction rows with
  | nil => exact .refl _
  | cons first rest ih =>
    obtain ⟨hFirst, hRest⟩ := not_or.mp (mt List.mem_cons.mpr h)
    rw [insertRow]
    split
    · exact .refl _
    · next hSame => exact absurd (Uuid.compare_eq_eq.mp hSame) hFirst
    · exact ((ih hRest).cons first).trans (List.Perm.swap s first rest)

/-- Rows of different templates, put in one after another, are all there. -/
theorem foldl_insert_perm {added : List Summary} :
    ∀ {c : Catalog}, ((added ++ c.rows).map Summary.id).Nodup →
      (added.foldl Catalog.insert c).rows.Perm (added ++ c.rows) := by
  induction added with
  | nil => exact fun _ => .refl _
  | cons s added ih =>
    intro c hIds
    obtain ⟨hNew, hRest⟩ := List.nodup_cons.mp hIds
    have hInsert : (c.insert s).rows.Perm (s :: c.rows) := by
      refine insertRow_perm fun hMem => hNew ?_
      obtain ⟨row, hRow, hSame⟩ := List.mem_map.mp hMem
      exact List.mem_map.mpr ⟨row, List.mem_append_right _ hRow, hSame⟩
    have hMoved : (added ++ (c.insert s).rows).Perm (s :: added ++ c.rows) :=
      (hInsert.append_left added).trans List.perm_middle
    exact (ih ((hMoved.map _).nodup_iff.mpr hIds)).trans hMoved

/-- However rows are given, a catalog made of them is in order. -/
theorem isOrdered_ofList (summaries : List Summary) : (ofList summaries).IsOrdered := by
  suffices h : ∀ c : Catalog, c.IsOrdered → (summaries.foldl Catalog.insert c).IsOrdered from
    h empty isOrdered_empty
  induction summaries with
  | nil => exact fun _ h => h
  | cons s summaries ih => exact fun _ h => ih _ (h.insert s)

/-- Summaries of different templates are all there in the catalog of their list. -/
theorem rows_ofList_perm {summaries : List Summary} (hIds : (summaries.map Summary.id).Nodup) :
    (ofList summaries).rows.Perm summaries := by
  have hRows := @foldl_insert_perm summaries empty (by rwa [show empty.rows = [] from rfl,
    List.append_nil])
  rwa [show empty.rows = [] from rfl, List.append_nil] at hRows

/-- **A catalog is made again from its rows in any order.** -/
theorem IsOrdered.ofList_eq (h : c.IsOrdered) {summaries : List Summary}
    (hPerm : summaries.Perm c.rows) : ofList summaries = c := by
  -- both are in order, so it is enough that they have the same rows
  refine (isOrdered_ofList summaries).eq_of_perm h (List.Perm.trans ?_ hPerm)
  exact rows_ofList_perm ((hPerm.map _).nodup_iff.mpr h.nodup_ids)

-- ---------------------------------------------------------------------------
-- Reading a catalog back
-- ---------------------------------------------------------------------------

/-- A catalog is read off any JSON from which its listing is decoded. -/
theorem IsOrdered.ofJson_eq (h : c.IsOrdered) {j : Json}
    (hRows : shape.decode j = .ok (c.listing.map Summary.toData)) : ofJson j = .ok c := by
  have hSame : (c.listing.map Summary.toData).map Summary.ofData = c.listing := by
    rw [List.map_map]
    exact List.map_id' c.listing
  have hPerm : c.listing.Perm c.rows := List.mergeSort_perm c.rows _
  rw [ofJson, hRows, Except.map, hSame, h.ofList_eq hPerm]

/-- **A catalog is read back from its JSON.** -/
theorem IsOrdered.ofJson_toJson (h : c.IsOrdered) : ofJson c.toJson = .ok c := by
  refine h.ofJson_eq ?_
  rw [toJson, Json.Shape.encode]
  refine Json.mapM_map_eq_ok fun data hData => ?_
  obtain ⟨s, -, rfl⟩ := List.mem_map.mp hData
  exact s.decode_toJson

/-- A catalog is read back from its JSON also when the members of its objects stand in order. -/
theorem IsOrdered.ofJson_canonical (h : c.IsOrdered) : ofJson c.toJson.canonical = .ok c := by
  refine h.ofJson_eq (shape.decode_canonical_encode _ (by decide) fun data hData => ?_)
  obtain ⟨s, -, rfl⟩ := List.mem_map.mp hData
  exact ⟨trivial, trivial, trivial, trivial, trivial, trivial, trivial⟩

end Catalog

end Galley
