import Galley.Projection.Fold
import Galley.Storage.Backend

/-!
# Following the log

A runner keeps a read model up to date: it reads the log page by page, folds the events into the
catalog, saves a checkpoint, and only then shows the new catalog. One such pass is a *tick*.

A tick goes from stage to stage, and between two stages it waits for a store; other writers may get
in there, and a tick may be given up there. Until it is done the runner and the read model are as
they were before, except that the first tick of a runner restores the saved checkpoint.

`Follower.watch` ticks again and again. A failure that means that the log cannot be trusted ends it
and marks the read model as halted; any other failure is left to the next tick.
-/

namespace Galley

/-- What clients read, and why it has stopped following the log, if it has. -/
structure ReadModel where
  catalog : Catalog
  halted : Option Code

namespace ReadModel

/-- The read model before any event. -/
def empty : ReadModel := ⟨.empty, none⟩

instance : Inhabited ReadModel := ⟨empty⟩

end ReadModel

/-- A reader of the log: how far it has come. -/
structure Runner where
  name : String
  batchSize : Nat
  position : Nat
  restored : Bool

namespace Runner

/-- A runner that has read nothing. It reads at least one event at a time. -/
def new (name : String) (batchSize : Nat) : Runner := ⟨name, max batchSize 1, 0, false⟩

end Runner

/-- A runner and the read model it feeds. -/
structure Follower where
  runner : Runner
  model : ReadModel

/-- What a tick did: how many events it folded, and where the runner is now. -/
structure TickOutcome where
  folded : Nat
  position : Nat
  deriving DecidableEq, Repr

/-- How far a tick has come. -/
inductive TickStage where
  | restoring
  | reading (catalog : Catalog) (position folded : Nat)
  | saving (catalog : Catalog) (position folded : Nat)
  | done (outcome : TickOutcome)

namespace Follower

/-- The follower with the state of a checkpoint. -/
def restore (f : Follower) (checkpoint : Option Checkpoint) : Except Failure Follower :=
  match checkpoint with
  | none => .ok { f with runner.restored := true }
  | some c =>
    match Catalog.ofJson c.state with
    | .error cause => .error (.unreadableCheckpoint f.runner.name cause)
    | .ok catalog =>
      .ok {
        runner := { f.runner with position := c.position, restored := true }
        model := { f.model with catalog := catalog } }

/-- The stage from which a restored follower reads the log. -/
def firstReading (f : Follower) : TickStage := .reading f.model.catalog f.runner.position 0

/-- The stage after a page of the log. A page that is not full is the last one. -/
def afterPage (f : Follower) (catalog : Catalog) (position folded : Nat) (page : List StoredEvent) :
    Except Failure TickStage :=
  match page.getLast? with
  | none =>
    if folded = 0 then .ok (.done ⟨0, position⟩) else .ok (.saving catalog position folded)
  | some last => do
    let catalog ← catalog.foldAll page
    let folded := folded + page.length
    if page.length < f.runner.batchSize then return .saving catalog last.sequence folded
    else return .reading catalog last.sequence folded

/-- The checkpoint of a catalog at a position. -/
def checkpoint (f : Follower) (now : Instant) (catalog : Catalog) (position : Nat) : Checkpoint :=
  ⟨f.runner.name, position, catalog.toJson, now⟩

/-- The follower after a tick. -/
def advanceTo (f : Follower) (catalog : Catalog) (position : Nat) : Follower :=
  { runner := { f.runner with position := position }
    model := { f.model with catalog := catalog } }

/-- Takes a tick one stage further. -/
def step (now : Instant) (f : Follower) : TickStage → Operation (Follower × TickStage)
  | .restoring => do
    if f.runner.restored then return (f, f.firstReading)
    else
      let f ← Operation.ofExcept (f.restore (← Operation.loadCheckpoint f.runner.name))
      return (f, f.firstReading)
  | .reading catalog position folded => do
    let page ← Operation.loadSince position f.runner.batchSize
    return (f, ← Operation.ofExcept (f.afterPage catalog position folded page))
  | .saving catalog position folded => do
    Operation.saveCheckpoint (f.checkpoint now catalog position)
    Operation.count (.folded f.runner.name) folded
    modify fun b => { b with tally := b.tally.set (.position f.runner.name) position }
    return (f.advanceTo catalog position, .done ⟨folded, position⟩)
  | .done outcome => return (f, .done outcome)

/-- The result of a tick, and the follower after it: as it was before the stage that failed. -/
abbrev Ticked := Except Failure TickOutcome × Follower

/-- Runs the stages of a tick up to the saving of the checkpoint. The fuel bounds the number of
pages. -/
def prepare (now : Instant) : (fuel : Nat) → Follower → TickStage →
    StateM Backend (Except Failure TickStage × Follower)
  | 0, f, stage => return (.ok stage, f)
  | fuel + 1, f, stage =>
    match stage with
    | .saving .. => return (.ok stage, f)
    | .done _ => return (.ok stage, f)
    | _ => do
      match ← (step now f stage).run with
      | .ok (f, stage) => prepare now fuel f stage
      | .error e => return (.error e, f)

/-- Ends a tick that has been prepared. -/
def finish (now : Instant) (f : Follower) (stage : TickStage) : StateM Backend Ticked := do
  match ← (step now f stage).run with
  | .ok (f, .done outcome) => return (.ok outcome, f)
  | .ok (f, _) => return (.ok ⟨0, f.runner.position⟩, f)
  | .error e => return (.error e, f)

/-- How many stages a tick can have on a log of the given length. -/
def stageBound (events : Nat) : Nat := 2 * events + 4

/-- One tick. -/
def tick (now : Instant) (f : Follower) : StateM Backend Ticked := do
  let events := (← get).events.log.length
  match ← prepare now (stageBound events) f .restoring with
  | (.ok stage, f) => finish now f stage
  | (.error e, f) => return (.error e, f)

/-- How following the log ended. -/
inductive Ending where
  | stopped
  | failed (cause : Failure)

/-- The follower that has stopped because of a failure. -/
def halt (f : Follower) (cause : Failure) : Follower :=
  { f with model.halted := some cause.code }

/-- Ticks until it is cancelled, which is noticed after the given number of turns. -/
def watch (now : Instant) : (turns : Nat) → Follower → StateM Backend (Ending × Follower)
  | 0, f => return (.stopped, f)
  | turns + 1, f => do
    match ← tick now f with
    | (.ok _, f) => watch now turns f
    | (.error e, f) =>
      if e.code.isIntegrity then return (.failed e, f.halt e) else watch now turns f

/-- How many turns begin before the given time, one at the start and one after each interval. -/
def turnsBefore (interval cancel : Nat) : Nat :=
  if cancel = 0 then 0 else (cancel - 1) / max interval 1 + 1

end Follower

end Galley
