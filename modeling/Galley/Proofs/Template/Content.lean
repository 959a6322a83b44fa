import Galley.Template.Content
import Galley.Proofs.Json.ShapeReader

/-!
# Content read back

Content that holds no reals and is not nested too deeply is read back from its canonical text, so
the canonical text tells contents apart. The opaque values of content must be valid, as every value
is that was read from a text.

Main results:

* `Content.parse_toText` — content is read back from its canonical text.
* `Content.toText_inj` — two contents with the same canonical text are the same.
-/

namespace Galley.Content

/-- Content whose opaque values are valid. -/
def IsValid (c : Content) : Prop :=
  Json.areValid c.components = true ∧ Json.areValid c.parameters = true

instance (c : Content) : Decidable c.IsValid := inferInstanceAs (Decidable (_ ∧ _))

/-- Valid content that its canonical text stands for: no part of it is a real, and it is not nested
deeper than the reader goes. -/
structure IsPlain (c : Content) : Prop where
  valid : c.IsValid
  realFree : c.toJson.isRealFree = true
  shallow : c.toJson.depth ≤ Json.nestingLimit

/-- The shape of content keeps its parts apart. -/
theorem shape_isWellFormed : shape.isWellFormed = true := by decide

/-- Valid content is data that can be written. -/
theorem holds_toData {c : Content} (h : c.IsValid) : shape.Holds c.toData :=
  ⟨rfl, ⟨trivial, trivial, trivial⟩, rfl, Json.areValid_iff.mp h.1, rfl,
    Json.areValid_iff.mp h.2, trivial⟩

theorem ofData_toData (c : Content) : ofData c.toData = c := by
  rfl

/-- The canonical text is a written form of the content and a newline. -/
theorem toList_toText (c : Content) :
    c.toText.toList = Json.written .wide 0 (shape.encode c.toData) ++ ['\n'] := by
  rw [toText, String.toList_ofList, Json.indented_eq_written]
  rfl

theorem isBlank_newline : ∀ c ∈ ['\n'], Json.isBlank c = true := by
  intro c hc
  rw [List.mem_singleton.mp hc]
  rfl

/-- **Plain content is read back from its canonical text.** -/
theorem parse_toText {c : Content} (h : c.IsPlain) : parse c.toText = .ok c := by
  have hRead := Json.Shape.parse_written .wide 0 shape_isWellFormed (holds_toData h.valid)
    h.realFree h.shallow c.toList_toText isBlank_newline
  rw [parse, hRead]
  exact congrArg Except.ok (ofData_toData c)

/-- The canonical text tells plain contents apart. -/
theorem toText_inj {a b : Content} (ha : a.IsPlain) (hb : b.IsPlain) :
    a.toText = b.toText ↔ a = b := by
  refine ⟨fun h => ?_, fun h => by rw [h]⟩
  have hEq := parse_toText ha
  rw [h, parse_toText hb] at hEq
  exact (Except.ok.inj hEq).symm

end Galley.Content
