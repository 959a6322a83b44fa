import Galley.Template.Aggregate

/-!
# Templates changed in place

A draft is a template in the hands of a writer, part by part. Events and commands overwrite its
parts one after another (`Edit`). A step that fails stops there, and what was overwritten before it
stays overwritten: nothing is taken back. So a command that fails leaves the template as it was only
if its last step that can fail comes before the first part that it overwrites.

What the steps come to, told without the order of the parts, are the functions on `Aggregate`.
-/

namespace Galley

/-- A template in the hands of a writer, part by part. -/
structure Draft where
  id : Uuid
  name : String
  description : String
  content : Content
  archived : Bool
  createdAt : Option Instant
  updatedAt : Option Instant
  version : Nat
  uncommitted : List TemplateEvent

/-- Steps on a draft, of which any can fail. -/
abbrev Edit := ExceptT Failure (StateM Draft)

namespace Edit

/-- Carries out steps: what they give, and the draft as they leave it. -/
def on {α : Type} (edit : Edit α) (d : Draft) : Except Failure α × Draft := edit.run d

/-- The draft as steps leave it, unless they fail. -/
def resultOn (edit : Edit Unit) (d : Draft) : Except Failure Draft :=
  match edit.on d with
  | (.ok (), d) => .ok d
  | (.error f, _) => .error f

end Edit

namespace Draft

/-- The draft before any event. -/
def empty (id : Uuid) : Draft := ⟨id, "", "", .empty, false, none, none, 0, []⟩

/-- Whether the template has been created. -/
def isCreated (d : Draft) : Bool := d.createdAt.isSome

/-- The version on top of which the uncommitted events must be appended. -/
def expectedVersion (d : Draft) : Nat := d.version - d.uncommitted.length

/-- The draft of an aggregate. -/
def ofAggregate (a : Aggregate) : Draft :=
  match a.state with
  | none => { empty a.id with version := a.version, uncommitted := a.uncommitted }
  | some s =>
    ⟨a.id, s.name, s.description, s.content, s.archived, some s.createdAt, some s.updatedAt,
      a.version, a.uncommitted⟩

/-- The aggregate that a draft stands for. -/
def toAggregate (d : Draft) : Aggregate where
  id := d.id
  state := d.createdAt.map fun createdAt =>
    ⟨d.name, d.description, d.content, d.archived, createdAt, d.updatedAt.getD createdAt⟩
  version := d.version
  uncommitted := d.uncommitted

-- ---------------------------------------------------------------------------
-- Events
-- ---------------------------------------------------------------------------

/-- Stops at a change of a template that has not been created. -/
def ensureCreated (kind : String) : Edit Unit := do
  let d ← get
  unless d.isCreated do throw (.notCreated d.id kind)

/-- Overwrites the parts that an event changes. -/
def overwrite (e : TemplateEvent) : Edit Unit :=
  match e with
  | .created name description content t => do
    let d ← get
    if d.isCreated then throw (.createdTwice d.id (d.version + 1))
    modify ({ · with name := name })
    modify ({ · with description := description })
    modify ({ · with content := content })
    modify ({ · with createdAt := some t })
    modify ({ · with updatedAt := some t })
  | .updated name description patch t => do
    ensureCreated e.kind
    let next ← MonadExcept.ofExcept (Aggregate.patchContent (← get).content patch)
    modify ({ · with content := next })
    modify ({ · with name := name })
    modify ({ · with description := description })
    modify ({ · with updatedAt := some t })
  | .archived t => do
    ensureCreated e.kind
    modify ({ · with archived := true })
    modify ({ · with updatedAt := some t })

/-- Takes one event. -/
def apply (e : TemplateEvent) : Edit Unit := do
  overwrite e
  modify fun d => { d with version := d.version + 1 }

/-- Takes one record, which must belong to the stream and have the next version. -/
def applyStored (stored : StoredEvent) : Edit Unit := do
  let d ← get
  if stored.aggregateId ≠ d.id then
    throw (.foreignEvent stored.sequence stored.aggregateId d.id)
  if stored.version ≠ d.version + 1 then
    throw (.wrongVersion d.id (d.version + 1) stored.version)
  apply (← MonadExcept.ofExcept stored.decode)

/-- Takes a list of records. -/
def applyAll : List StoredEvent → Edit Unit
  | [] => pure ()
  | stored :: rest => do
    applyStored stored
    applyAll rest

/-- Takes an event and keeps it for the next append. -/
def record (e : TemplateEvent) : Edit Unit := do
  apply e
  modify fun d => { d with uncommitted := d.uncommitted ++ [e] }

-- ---------------------------------------------------------------------------
-- Commands
-- ---------------------------------------------------------------------------

/-- Stops at a command on a template that there is not. -/
def ensureExists : Edit Unit := do
  let d ← get
  unless d.isCreated do throw (.notFound d.id)

/-- Stops at a name that is nothing but blanks. -/
def ensureNamed (name : String) : Edit Unit := do
  if Aggregate.isBlankName name then throw .blankName

/-- Gives a template a name, a description and content. -/
def update (now : Instant) (name description : String) (content : Content) : Edit Unit := do
  ensureExists
  ensureNamed name
  let old := (← get).content.toText
  record (.updated name description (Patch.diff old content.toText) now)

/-- Archives a template, unless that has been done. -/
def archive (now : Instant) : Edit Unit := do
  ensureExists
  if (← get).archived then return
  record (.archived now)

/-- Takes the uncommitted events out. -/
def takeUncommitted : Edit (List TemplateEvent) := do
  let events := (← get).uncommitted
  modify ({ · with uncommitted := [] })
  return events

/-- Forgets the uncommitted events. -/
def clear : Edit Unit := modify ({ · with uncommitted := [] })

/-- Starts a template. -/
def create (now : Instant) (id : Uuid) (name description : String) (content : Content) :
    Except Failure Draft := do
  if Aggregate.isBlankName name then throw .blankName
  (record (.created name description content now)).resultOn (empty id)

/-- Rebuilds a template from its history. -/
def replay (id : Uuid) (history : List StoredEvent) : Except Failure Draft :=
  (applyAll history).resultOn (empty id)

end Draft

end Galley
