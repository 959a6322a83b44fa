import Galley.Log.Store
import Galley.Storage.Checkpoint
import Galley.Metrics.Tally

/-!
# Storage

What services and projections work on: the event store, the checkpoint store, and the tally of what
happened. A store may be out of order: an outage plan says for each kind of call which of the next
calls fail before they do anything. Without an outage the calls are those of the stores, and what
they did is counted.

An *operation* works on storage and may fail. Storage keeps what was done before the failure.
Every failure is counted once, where it arises.
-/

namespace Galley

/-- The calls of the stores that can be out of order. -/
inductive StoreCall where
  | append
  | load
  | loadSince
  | loadCheckpoint
  | saveCheckpoint
  deriving DecidableEq, Repr

/-- For each kind of call, what happens to the next calls: each fails, or is let through. After the
list all are let through. -/
abbrev OutagePlan := StoreCall → List (Option Failure)

/-- Everything stored. -/
structure Backend where
  events : EventStore
  checkpoints : CheckpointStore
  outages : OutagePlan
  tally : Tally
  pageReads : Nat

namespace Backend

/-- Storage without contents. -/
def empty : Backend := ⟨.empty, .empty, fun _ => [], .empty, 0⟩

instance : Inhabited Backend := ⟨empty⟩

/-- Storage with a new outage plan for one kind of call. -/
def withOutages (b : Backend) (call : StoreCall) (plan : List (Option Failure)) : Backend :=
  { b with outages := fun other => if other = call then plan else b.outages other }

/-- Storage in which something more has been counted. -/
def count (b : Backend) (m : Measure) (n : Nat) : Backend := { b with tally := b.tally.add m n }

end Backend

/-- An operation on storage that may fail. -/
abbrev Operation (α : Type) := ExceptT Failure (StateM Backend) α

namespace Operation

/-- Runs an operation. -/
def run {α : Type} (op : Operation α) (b : Backend) : Except Failure α × Backend :=
  StateT.run (ExceptT.run op) b

/-- Fails; the failure is counted. -/
def fail {α : Type} (f : Failure) : Operation α := do
  modify fun b => b.count (.failures f.code) 1
  throw f

/-- The result of a computation outside storage; its failure is counted. -/
def ofExcept {α : Type} : Except Failure α → Operation α
  | .ok x => pure x
  | .error f => fail f

/-- Counts something. -/
def count (m : Measure) (n : Nat) : Operation Unit := modify fun b => b.count m n

/-- Goes on unless an outage is planned for the call. -/
def reach (call : StoreCall) : Operation Unit := do
  let b ← get
  match b.outages call with
  | [] => pure ()
  | outage :: rest =>
    set (b.withOutages call rest)
    match outage with
    | some f => fail f
    | none => pure ()

/-- Counts each event of a batch under its kind. -/
def countKinds (batch : List NewEvent) : Operation Unit :=
  batch.forM fun e => count (.appended e.kind) 1

/-- Appends a batch to a stream. -/
def append (now : Instant) (id : Uuid) (expected : Nat) (batch : List NewEvent) :
    Operation Nat := do
  reach .append
  let b ← get
  match b.events.append now id expected batch with
  | (.ok version, events) =>
    set { b with events := events }
    countKinds batch
    return version
  | (.error f, events) =>
    set { b with events := events }
    match f with
    | .conflict .. => count .conflicts 1
    | _ => pure ()
    fail f

/-- Loads a stream. -/
def load (id : Uuid) : Operation (List StoredEvent) := do
  reach .load
  ofExcept ((← get).events.load id)

/-- Loads a page of the log. -/
def loadSince (position limit : Nat) : Operation (List StoredEvent) := do
  modify fun b => { b with pageReads := b.pageReads + 1 }
  reach .loadSince
  return (← get).events.loadSince position limit

/-- Loads a checkpoint. -/
def loadCheckpoint (name : String) : Operation (Option Checkpoint) := do
  reach .loadCheckpoint
  return (← get).checkpoints.load name

/-- Saves a checkpoint. -/
def saveCheckpoint (c : Checkpoint) : Operation Unit := do
  reach .saveCheckpoint
  modify fun b => { b with checkpoints := b.checkpoints.save c }

end Operation

end Galley
