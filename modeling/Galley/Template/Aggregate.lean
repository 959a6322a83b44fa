import Galley.Template.Event
import Galley.Text.Blank

/-!
# Templates from their history

A template is not stored; it is rebuilt from its events. An *aggregate* is a template on the way:
the state after the events applied so far, their number, and the events that commands have recorded
and that still have to be appended.

* `Aggregate.apply` takes one event, `Aggregate.replay` a whole history. Replay checks that every
  event belongs to the stream and that versions follow each other, before it looks into the event.
* A command (`create`, `update`, `archive`) checks the input, and records one event or none.
-/

namespace Galley

/-- A template as clients see it. -/
structure Template where
  id : Uuid
  name : String
  description : String
  content : Content
  archived : Bool
  createdAt : Instant
  updatedAt : Instant
  version : Nat

namespace Template

/-- The shape of a template. -/
abbrev shape : Json.Shape :=
  .record "Template"
    (.cons "id" .required .uuid
      (.cons "name" .required .text
        (.cons "description" .required .text
          (.cons "content" .required Content.shape
            (.cons "archived" .required .flag
              (.cons "createdAt" .required .instant
                (.cons "updatedAt" .required .instant
                  (.cons "version" .required .word64 .nil))))))))

/-- The template as data of its shape. -/
def toData (t : Template) : shape.Value :=
  (t.id, t.name, t.description, t.content.toData, t.archived, t.createdAt, t.updatedAt, t.version,
    ())

/-- The template that data of its shape stands for. -/
def ofData : shape.Value → Template
  | (id, name, description, content, archived, createdAt, updatedAt, version, ()) =>
    ⟨id, name, description, Content.ofData content, archived, createdAt, updatedAt, version⟩

/-- The template as JSON. -/
def toJson (t : Template) : Json := shape.encode t.toData

end Template

/-- The state of a template that has been created. -/
structure TemplateState where
  name : String
  description : String
  content : Content
  archived : Bool
  createdAt : Instant
  updatedAt : Instant

/-- A template rebuilt from its events. -/
structure Aggregate where
  id : Uuid
  state : Option TemplateState
  version : Nat
  uncommitted : List TemplateEvent

namespace Aggregate

/-- The aggregate before any event. -/
def empty (id : Uuid) : Aggregate := ⟨id, none, 0, []⟩

/-- Whether the template has been created. -/
def isCreated (a : Aggregate) : Bool := a.state.isSome

/-- The template, once it has been created. -/
def toTemplate (a : Aggregate) : Option Template :=
  a.state.map fun s =>
    ⟨a.id, s.name, s.description, s.content, s.archived, s.createdAt, s.updatedAt, a.version⟩

/-- The template, or the failure that there is none. -/
def snapshot (a : Aggregate) : Except Failure Template :=
  match a.toTemplate with
  | some t => .ok t
  | none => .error (.notFound a.id)

-- ---------------------------------------------------------------------------
-- Events
-- ---------------------------------------------------------------------------

/-- Carries out a content patch. -/
def patchContent (content : Content) (patch : String) : Except Failure Content :=
  match Patch.apply content.toText patch with
  | .error cause => .error (.patch cause)
  | .ok text =>
    match Content.parse text with
    | .error message => .error (.patchedContent message)
    | .ok content => .ok content

/-- The state after an event. -/
def applyState (id : Uuid) (version : Nat) :
    Option TemplateState → TemplateEvent → Except Failure TemplateState
  | some _, .created .. => .error (.createdTwice id (version + 1))
  | none, .created name description content t => .ok ⟨name, description, content, false, t, t⟩
  | none, e => .error (.notCreated id e.kind)
  | some s, .updated name description patch t =>
    (patchContent s.content patch).map fun content =>
      { s with name := name, description := description, content := content, updatedAt := t }
  | some s, .archived t => .ok { s with archived := true, updatedAt := t }

/-- Takes one event. -/
def apply (a : Aggregate) (e : TemplateEvent) : Except Failure Aggregate :=
  (applyState a.id a.version a.state e).map fun s =>
    { a with state := some s, version := a.version + 1 }

/-- Takes one record, which must belong to the stream and have the next version. -/
def applyStored (a : Aggregate) (stored : StoredEvent) : Except Failure Aggregate :=
  if stored.aggregateId ≠ a.id then
    .error (.foreignEvent stored.sequence stored.aggregateId a.id)
  else if stored.version ≠ a.version + 1 then
    .error (.wrongVersion a.id (a.version + 1) stored.version)
  else stored.decode >>= a.apply

/-- Takes a list of records. -/
def applyAll : Aggregate → List StoredEvent → Except Failure Aggregate
  | a, [] => .ok a
  | a, stored :: rest => a.applyStored stored >>= fun a => applyAll a rest

/-- Rebuilds a template from its history. -/
def replay (id : Uuid) (history : List StoredEvent) : Except Failure Aggregate :=
  applyAll (empty id) history

/-- Rebuilds a template as of a version: from the events before the first one above it. -/
def replayUntil (id : Uuid) (history : List StoredEvent) (version : Nat) :
    Except Failure Aggregate :=
  replay id (history.takeWhile fun e => e.version ≤ version)

/-- Takes an event and keeps it for the next append. -/
def record (a : Aggregate) (e : TemplateEvent) : Except Failure Aggregate :=
  (a.apply e).map fun a => { a with uncommitted := a.uncommitted ++ [e] }

-- ---------------------------------------------------------------------------
-- Commands
-- ---------------------------------------------------------------------------

/-- Whether a name is nothing but blanks. -/
def isBlankName (name : String) : Bool := name.toList.all Text.isBlank

/-- Starts a template. -/
def create (now : Instant) (id : Uuid) (name description : String) (content : Content) :
    Except Failure Aggregate :=
  if isBlankName name then .error .blankName
  else (empty id).record (.created name description content now)

/-- Gives a template a name, a description and content; the content is recorded as a patch. -/
def update (a : Aggregate) (now : Instant) (name description : String) (content : Content) :
    Except Failure Aggregate :=
  match a.state with
  | none => .error (.notFound a.id)
  | some s =>
    if isBlankName name then .error .blankName
    else
      a.record (.updated name description (Patch.diff s.content.toText content.toText) now)

/-- Archives a template; for one that is archived already nothing is recorded. -/
def archive (a : Aggregate) (now : Instant) : Except Failure Aggregate :=
  match a.state with
  | none => .error (.notFound a.id)
  | some s => if s.archived then .ok a else a.record (.archived now)

-- ---------------------------------------------------------------------------
-- The buffer
-- ---------------------------------------------------------------------------

/-- The uncommitted events, ready to be appended. -/
def newEvents (a : Aggregate) : List NewEvent := a.uncommitted.map TemplateEvent.toNewEvent

/-- Forgets the uncommitted events. -/
def clear (a : Aggregate) : Aggregate := { a with uncommitted := [] }

/-- Takes the uncommitted events out. -/
def takeUncommitted (a : Aggregate) : List TemplateEvent × Aggregate := (a.uncommitted, a.clear)

/-- The version on top of which the uncommitted events must be appended. -/
def expectedVersion (a : Aggregate) : Nat := a.version - a.uncommitted.length

end Aggregate

end Galley
