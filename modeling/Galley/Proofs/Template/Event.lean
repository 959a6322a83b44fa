import Galley.Template.Event
import Galley.Proofs.Template.Content

/-!
# Template events decoded

An event is decoded from its recorded form. A payload is kept as a canonical value, so its members
come in the order of their names and not of the fields; decoding does not depend on it.

Main results:

* `TemplateEvent.decode_encode` — an event is decoded from its kind and payload.
-/

namespace Galley.TemplateEvent

/-- Events that can be recorded: the content of a creation is valid. -/
def IsValid : TemplateEvent → Prop
  | created _ _ content _ => content.IsValid
  | updated .. => True
  | archived _ => True

/-- A payload of a well-formed shape is decoded. -/
theorem decodeAs_canonical (kind : String) {shape : Json.Shape} (x : shape.Value)
    (hWell : shape.isWellFormed = true) (hHolds : shape.Holds x) :
    decodeAs kind shape (shape.encode x).canonical = .ok x := by
  rw [decodeAs, shape.decode_canonical_encode x hWell hHolds]

/-- **An event is decoded from its recorded form.** -/
theorem decode_encode {e : TemplateEvent} (h : e.IsValid) : decode e.kind e.encode = .ok e := by
  cases e with
  | created name description content t =>
    have hRead := @decodeAs_canonical createdKind createdShape
      (name, description, content.toData, t, ()) (by decide)
      ⟨trivial, trivial, Content.holds_toData h, trivial, trivial⟩
    rw [kind, encode, decode, if_pos rfl, hRead]
    rfl
  | updated name description patch t =>
    have hRead := @decodeAs_canonical updatedKind updatedShape (name, description, patch, t, ())
      (by decide)
      ⟨trivial, trivial, trivial, trivial, trivial⟩
    rw [kind, encode, decode, if_neg (by decide), if_pos rfl, hRead]
    rfl
  | archived t =>
    have hRead := @decodeAs_canonical archivedKind archivedShape (t, ()) (by decide)
      ⟨trivial, trivial⟩
    rw [kind, encode, decode, if_neg (by decide), if_neg (by decide), if_pos rfl, hRead]
    rfl

end Galley.TemplateEvent
