import Galley.Template.Aggregate
import Galley.Projection.Runner
import Galley.Render.Placeholder
import Galley.Render.Renderer

/-!
# The template service

What clients can do with templates. A write goes in three steps: load the stream and rebuild the
template, carry out the command on it (`Change.prepare`), and append what it recorded (`commit`).
Between the steps other writers may get in; the append is then checked against the version that the
command names, or else the one that was loaded.

The list comes from a read model and may lag behind; everything else is read from the event store.
-/

namespace Galley

/-- One entry of a template's history. -/
structure HistoryEntry where
  version : Nat
  kind : String
  recordedAt : Instant
  deriving DecidableEq

namespace HistoryEntry

/-- The shape of an entry. -/
abbrev shape : Json.Shape :=
  .record "HistoryEntry"
    (.cons "version" .required .word64
      (.cons "kind" .required .text (.cons "recordedAt" .required .instant .nil)))

/-- The entry as data of its shape. -/
def toData (e : HistoryEntry) : shape.Value := (e.version, e.kind, e.recordedAt, ())

/-- The entry that data of its shape stands for. -/
def ofData : shape.Value → HistoryEntry
  | (version, kind, recordedAt, ()) => ⟨version, kind, recordedAt⟩

/-- The entry as JSON. -/
def toJson (e : HistoryEntry) : Json := shape.encode e.toData

/-- The entry of a record. -/
def ofStored (e : StoredEvent) : HistoryEntry := ⟨e.version, e.kind, e.recordedAt⟩

end HistoryEntry

namespace Service

-- ---------------------------------------------------------------------------
-- Writing
-- ---------------------------------------------------------------------------

/-- A change of a template. -/
inductive Change where
  | update (name description : String) (content : Content) (expected : Option Nat)
  | archive

/-- A template whose recorded events wait to be appended on top of a version. -/
structure Pending where
  aggregate : Aggregate
  expected : Nat

/-- The new template that waits to be appended. -/
def prepareNew (now : Instant) (id : Uuid) (name description : String) (content : Content) :
    Except Failure Pending :=
  (Aggregate.create now id name description content).map fun a => ⟨a, a.expectedVersion⟩

/-- Carries out a change on a loaded template. -/
def Change.prepare (now : Instant) (a : Aggregate) : Change → Except Failure Pending
  | update name description content expected =>
    (a.update now name description content).map fun a =>
      ⟨a, expected.getD a.expectedVersion⟩
  | archive => (a.archive now).map fun a => ⟨a, a.expectedVersion⟩

/-- Loads a template from its whole stream. -/
def load (id : Uuid) : Operation Aggregate := do
  Operation.ofExcept (Aggregate.replay id (← Operation.load id))

/-- Appends what was recorded, if anything was, and gives the template. -/
def commit (now : Instant) (p : Pending) : Operation Template := do
  let events := p.aggregate.newEvents
  if !events.isEmpty then
    let _ ← Operation.append now p.aggregate.id p.expected events
  Operation.ofExcept p.aggregate.snapshot

/-- Creates a template. The event happens at one reading of the clock and is recorded at another. -/
def createAt (happened recorded : Instant) (id : Uuid) (name description : String)
    (content : Content) : Operation Template := do
  commit recorded (← Operation.ofExcept (prepareNew happened id name description content))

/-- Changes a template. The event happens at one reading of the clock and is recorded at
another. -/
def changeAt (happened recorded : Instant) (id : Uuid) (c : Change) : Operation Template := do
  commit recorded (← Operation.ofExcept (c.prepare happened (← load id)))

/-- Creates a template, with the clock standing still. -/
def create (now : Instant) : Uuid → String → String → Content → Operation Template :=
  createAt now now

/-- Changes a template, with the clock standing still. -/
def change (now : Instant) : Uuid → Change → Operation Template := changeAt now now

/-- Gives a template a name, a description and content. With an expected version, the append is
checked against that one and not against the one just loaded. -/
def update (now : Instant) (id : Uuid) (name description : String) (content : Content)
    (expected : Option Nat) : Operation Template :=
  change now id (.update name description content expected)

/-- Archives a template. -/
def archive (now : Instant) (id : Uuid) : Operation Template := change now id .archive

-- ---------------------------------------------------------------------------
-- Reading
-- ---------------------------------------------------------------------------

/-- A template as it is now. -/
def get (id : Uuid) : Operation Template := do Operation.ofExcept (← load id).snapshot

/-- What happened to a template, oldest first. -/
def history (id : Uuid) : Operation (List HistoryEntry) := do
  return (← Operation.load id).map HistoryEntry.ofStored

/-- A template as it was at a version. -/
def atVersion (id : Uuid) (version : Nat) : Operation Template := do
  let a ← Operation.ofExcept (Aggregate.replayUntil id (← Operation.load id) version)
  Operation.ofExcept a.snapshot

/-- The list of templates, newest first. -/
def list (model : ReadModel) : List Summary := model.catalog.listing

/-- Puts values into a source and renders it. -/
def toPdf (renderer : Renderer) (source : String) (values : Placeholder.Variables) :
    Operation (List UInt8) :=
  renderer.compile (Placeholder.substitute source values)

end Service

end Galley
