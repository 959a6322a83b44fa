import Galley.Proofs.Json.Reading
import Galley.Proofs.Patch.RoundTrip
import Galley.Proofs.Template.Content

/-!
# Canonical texts

The canonical text of content goes through the printer of values, and patches are made between two
such texts. Every update of every template goes through both, so what is printed has to be what is
read, and a patch has to lead from one content to the other.

Content without reals is read back from its canonical text if it is not nested too deeply.

Main results:

* `of_admits` — content that was read from any text is valid and not nested too deeply.
* `canonical_roundTrip` — canonical texts, and the patches between them, stand for the contents.
-/

namespace Galley.Content

variable {a b c : Content}

-- ---------------------------------------------------------------------------
-- Content as a value
-- ---------------------------------------------------------------------------

/-- The members of content, in the order of their declaration. -/
theorem toJson_eq (c : Content) :
    c.toJson = .object [
      ("grid", .object [("columns", .nat c.grid.columns.toNat), ("gap", .nat c.grid.gap.toNat)]),
      ("components", .array c.components), ("variables", .array c.parameters)] := by
  have hItems : ∀ xs : List Json, xs.map (Json.Shape.json.encode ·) = xs := List.map_id'
  show Json.object [
    ("grid", .object [("columns", .nat c.grid.columns.toNat), ("gap", .nat c.grid.gap.toNat)]),
    ("components", .array (c.components.map (Json.Shape.json.encode ·))),
    ("variables", .array (c.parameters.map (Json.Shape.json.encode ·)))] = _
  rw [hItems, hItems]

/-- Content is two levels deeper than what it holds. -/
theorem depth_toJson (c : Content) :
    c.toJson.depth = max (Json.depthOfItems c.components) (Json.depthOfItems c.parameters) + 2 := by
  rw [toJson_eq]
  simp only [Json.depth, Json.depthOfMembers, Json.nat]
  omega

theorem isRealFree_toJson (c : Content) :
    c.toJson.isRealFree = (Json.areRealFree c.components && Json.areRealFree c.parameters) := by
  rw [toJson_eq]
  simp only [Json.isRealFree, Json.haveRealFree, Json.nat, Bool.true_and, Bool.and_true]

/-- A list of values that was read is valid, and nested no deeper than the reader went. -/
theorem items_of_admits {levels : Nat} {items : Option (List Json)}
    (h : ∀ xs, items = some xs → (Json.Shape.list .json).Admits (levels + 1) xs) :
    Json.areValid (items.getD []) = true ∧ Json.depthOfItems (items.getD []) ≤ levels := by
  cases items with
  | none => exact ⟨rfl, Nat.zero_le _⟩
  | some xs =>
    obtain ⟨inner, hLevels, hEach⟩ := h xs rfl
    cases hLevels
    exact ⟨Json.areValid_iff.mpr fun x hx => (hEach x hx).valid,
      Json.depthOfItems_le_iff.mpr fun x hx => (hEach x hx).shallow⟩

/-- **Content that was read** is valid, and nested no deeper than the reader went. -/
theorem of_admits {levels : Nat} {data : shape.Value} (h : shape.Admits (levels + 2) data) :
    (ofData data).IsValid ∧ (ofData data).toJson.depth ≤ levels + 2 := by
  obtain ⟨grid, components, parameters, ⟨⟩⟩ := data
  obtain ⟨inner, hLevels, -, hComponents, hParameters, -⟩ := h
  cases hLevels
  obtain ⟨hValid, hDepth⟩ := items_of_admits hComponents
  obtain ⟨hValid', hDepth'⟩ := items_of_admits hParameters
  refine ⟨⟨hValid, hValid'⟩, ?_⟩
  rw [depth_toJson]
  exact Nat.add_le_add_right (Nat.max_le.mpr ⟨hDepth, hDepth'⟩) 2

/-- The same of content that may have been left out. -/
theorem getD_of_admits {levels : Nat} {data : Option shape.Value}
    (h : ∀ x, data = some x → shape.Admits (levels + 2) x) :
    ((data.map ofData).getD .empty).IsValid ∧
      ((data.map ofData).getD .empty).toJson.depth ≤ levels + 2 := by
  cases data with
  | none => exact ⟨⟨rfl, rfl⟩, Nat.le_add_left 2 levels⟩
  | some x => exact of_admits (h x rfl)

-- ---------------------------------------------------------------------------
-- From one content to another
-- ---------------------------------------------------------------------------

/-- **Canonical texts stand for their contents.** Plain content is read back from its text. The
patch between two texts is empty if the contents are equal and only then, and it leads from the one
content to the other. -/
theorem canonical_roundTrip (ha : a.IsPlain) (hb : b.IsPlain)
    (hOld : Text.byteLength a.toText.toList < Word.values64)
    (hNew : Text.byteLength b.toText.toList < Word.values64) :
    parse a.toText = .ok a ∧ (Patch.diff a.toText b.toText = "" ↔ a = b) ∧
      ∃ text, Patch.apply a.toText (Patch.diff a.toText b.toText) = .ok text ∧
        parse text = .ok b :=
  ⟨parse_toText ha, (Patch.diff_eq_empty_iff _ _).trans (toText_inj ha hb),
    b.toText, Patch.apply_diff hOld hNew, parse_toText hb⟩

/-- The greatest and the least integer, names and strings that have to be escaped or are not ASCII,
and lists and objects that are empty. -/
theorem canonical_roundTrip_of_extremes :
    let a : Content := ⟨⟨0, 4294967295⟩,
      [.object [("", .array []), ("\"\\", .nat 18446744073709551615),
        ("\u00e9", .int (-9223372036854775808)), ("😀", .string "\x01\n\u2028")]],
      [.array [.array [], .object []], .null]⟩
    let b : Content := ⟨.standard, [.string "\x7f"], []⟩
    a.IsPlain ∧ b.IsPlain ∧
      parse a.toText = .ok a ∧ (Patch.diff a.toText b.toText = "" ↔ a = b) ∧
      ∃ text, Patch.apply a.toText (Patch.diff a.toText b.toText) = .ok text ∧
        parse text = .ok b := by
  intro a b
  have ha : a.IsPlain := ⟨by decide, by decide, by decide⟩
  have hb : b.IsPlain := ⟨by decide, by decide, by decide⟩
  have hOld : Text.byteLength a.toText.toList < Word.values64 := by
    rw [toText, String.toList_ofList]
    decide +kernel
  have hNew : Text.byteLength b.toText.toList < Word.values64 := by
    rw [toText, String.toList_ofList]
    decide +kernel
  exact ⟨ha, hb, canonical_roundTrip ha hb hOld hNew⟩

end Galley.Content
