import Galley.Template.Content
import Galley.Log.Event

/-!
# Template events

The three things that happen to a template, and their recorded form: a kind and a payload. A change
of content is recorded as a patch of the canonical text, not as the new content.
-/

namespace Galley

/-- What happened to a template. -/
inductive TemplateEvent where
  | created (name description : String) (content : Content) (at_ : Instant)
  | updated (name description : String) (patch : String) (at_ : Instant)
  | archived (at_ : Instant)

namespace TemplateEvent

/-- The type under which the events of templates are recorded. -/
def aggregateType : String := "template"

/-- The kind of a creation. -/
def createdKind : String := "TemplateCreated"

/-- The kind of an update. -/
def updatedKind : String := "TemplateUpdated"

/-- The kind of an archiving. -/
def archivedKind : String := "TemplateArchived"

/-- The kind of an event. -/
def kind : TemplateEvent → String
  | created .. => createdKind
  | updated .. => updatedKind
  | archived .. => archivedKind

/-- When an event happened. -/
def occurredAt : TemplateEvent → Instant
  | created _ _ _ t => t
  | updated _ _ _ t => t
  | archived t => t

/-- The shape of a creation's payload. -/
abbrev createdShape : Json.Shape :=
  .record "TemplateCreated"
    (.cons "name" .required .text
      (.cons "description" .required .text
        (.cons "content" .required Content.shape
          (.cons "created_at" .required .instant .nil))))

/-- The shape of an update's payload. -/
abbrev updatedShape : Json.Shape :=
  .record "TemplateUpdated"
    (.cons "name" .required .text
      (.cons "description" .required .text
        (.cons "content_patch" .required .text
          (.cons "updated_at" .required .instant .nil))))

/-- The shape of an archiving's payload. -/
abbrev archivedShape : Json.Shape :=
  .record "TemplateArchived" (.cons "archived_at" .required .instant .nil)

/-- The payload of an event. -/
def encode : TemplateEvent → Json
  | created name description content t =>
    (createdShape.encode (name, description, content.toData, t, ())).canonical
  | updated name description patch t =>
    (updatedShape.encode (name, description, patch, t, ())).canonical
  | archived t => (archivedShape.encode (t, ())).canonical

/-- Reads a payload of a shape. -/
def decodeAs (kind : String) (shape : Json.Shape) (payload : Json) : Except Failure shape.Value :=
  match shape.decode payload with
  | .ok data => .ok data
  | .error cause => .error (.unreadablePayload kind cause)

/-- The event that a kind and a payload stand for. -/
def decode (kind : String) (payload : Json) : Except Failure TemplateEvent :=
  if kind = createdKind then
    (decodeAs kind createdShape payload).map fun (name, description, content, t, ()) =>
      created name description (Content.ofData content) t
  else if kind = updatedKind then
    (decodeAs kind updatedShape payload).map fun (name, description, patch, t, ()) =>
      updated name description patch t
  else if kind = archivedKind then
    (decodeAs kind archivedShape payload).map fun (t, ()) => archived t
  else .error (.unknownKind kind)

/-- The event, ready to be appended. -/
def toNewEvent (e : TemplateEvent) : NewEvent := ⟨aggregateType, e.kind, e.encode, e.occurredAt⟩

end TemplateEvent

/-- The template event that a record stands for. -/
def StoredEvent.decode (e : StoredEvent) : Except Failure TemplateEvent :=
  if e.aggregateType ≠ TemplateEvent.aggregateType then
    .error (.foreignType e.version e.aggregateId e.aggregateType)
  else TemplateEvent.decode e.kind e.payload

end Galley
