import Galley.Proofs.Projection.Turns
import Galley.Proofs.Storage.Counted

/-!
# Counters agree with what is stored

Writers append, some of them in vain, and followers of different names follow the log; their ticks
fail or are given up, and a store may be out of order at any call. After any turns the counters can
be checked against what is stored: the events of each kind, the conflicts, and for each follower the
events between where it was restored and where it is.

A follower counts what it has folded at the end of a tick, after the checkpoint has been stored. A
tick that ends before has counted nothing, and the follower has not moved either, so its next tick
reads the same events again and counts them then. What carries the induction is that a follower has
read the events that it has counted (`Audited.read`), and a tick on its way has read from there on
the events that it is going to count (`AuditedPhase`).

Main results:

* `leavesAudit_restoring`, `leavesAudit_reading` — most of a tick is not audited.
* `Audited.work` — what a turn of a follower does to its books.
* `AuditedWorld.step` — what any turn does to all of them.
* `counted_run` — from the empty store on, turn by turn and tick by tick.
-/

namespace Galley

-- ---------------------------------------------------------------------------
-- Failures of a tick
-- ---------------------------------------------------------------------------

/-- A payload that cannot be read is no conflict. -/
theorem TemplateEvent.decode_noConflict {kind : String} {payload : Json} {f : Failure}
    (h : TemplateEvent.decode kind payload = .error f) : f.code ≠ .concurrencyConflict := by
  have hAs {shape : Json.Shape} {α : Type} {g : shape.Value → α}
      (h : (decodeAs kind shape payload).map g = .error f) : f.code ≠ .concurrencyConflict := by
    rw [decodeAs] at h
    cases hShape : shape.decode payload with
    | ok data =>
      rw [hShape] at h
      cases h
    | error cause =>
      rw [hShape] at h
      cases h
      intro hCode
      cases hCode
  rw [TemplateEvent.decode] at h
  split at h
  · exact hAs h
  split at h
  · exact hAs h
  split at h
  · exact hAs h
  · cases h
    intro hCode
    cases hCode

namespace Catalog

/-- Folding an event does not fail as a conflict. -/
theorem fold_noConflict {c : Catalog} {e : StoredEvent} {f : Failure} (h : c.fold e = .error f) :
    f.code ≠ .concurrencyConflict := by
  have hRow {g : Summary → Catalog} (h : (c.rowOf e).map g = .error f) :
      f.code ≠ .concurrencyConflict := by
    rw [rowOf] at h
    cases hFound : c.get? e.aggregateId with
    | some row =>
      rw [hFound] at h
      cases h
    | none =>
      rw [hFound] at h
      cases h
      intro hCode
      cases hCode
  rw [fold] at h
  split at h
  · cases h
  · next hType =>
    rw [StoredEvent.decode, if_neg hType] at h
    cases hDecode : TemplateEvent.decode e.kind e.payload with
    | error f' =>
      rw [hDecode] at h
      cases h
      exact TemplateEvent.decode_noConflict hDecode
    | ok event =>
      rw [hDecode] at h
      cases event with
      | created name description content t => cases h
      | updated name description patch t => exact hRow h
      | archived t => exact hRow h

/-- Nothing that goes wrong in folding is a conflict. -/
theorem foldAll_noConflict {c : Catalog} {events : List StoredEvent} {f : Failure}
    (h : c.foldAll events = .error f) : f.code ≠ .concurrencyConflict := by
  induction events generalizing c with
  | nil => cases h
  | cons e rest ih =>
    rw [foldAll] at h
    cases hFold : c.fold e with
    | error f' =>
      rw [hFold] at h
      cases h
      exact fold_noConflict hFold
    | ok next =>
      rw [hFold] at h
      exact ih h

end Catalog

namespace Follower

open Operation

/-- To restore a follower leaves the books alone. -/
theorem leavesAudit_restoring (now : Instant) (f : Follower) :
    LeavesAudit (step now f .restoring) := by
  rw [step]
  split
  · exact leavesAudit_pure _
  · refine (leavesAudit_loadCheckpoint _).bind fun held => ?_
    refine (leavesAudit_ofExcept fun e he => ?_).bind fun g => leavesAudit_pure _
    rw [restore.eq_def] at he
    split at he
    · cases he
    · split at he
      · cases he
        intro hCode
        cases hCode
      · cases he

theorem leavesAudit_reading (now : Instant) (f : Follower) (catalog : Catalog)
    (position folded : Nat) : LeavesAudit (step now f (.reading catalog position folded)) := by
  rw [step]
  refine (leavesAudit_loadSince _ _).bind fun page => ?_
  exact (leavesAudit_ofExcept fun e he =>
    Catalog.foldAll_noConflict (foldAll_of_afterPage_error he)).bind fun stage => leavesAudit_pure _

end Follower

namespace Projection

-- ---------------------------------------------------------------------------
-- The books of a follower
-- ---------------------------------------------------------------------------

/-- Where a follower starts to count: at the position of the checkpoint of its name, if there is
one. -/
def startOf (held : Option Checkpoint) : Nat := (held.map Checkpoint.position).getD 0

/-- What a follower of a name may do to storage: it leaves the events, the checkpoints of other
names and the books of others alone. -/
structure Minds (name : String) (b b' : Backend) : Prop where
  events : b'.events = b.events
  checkpoints : ∀ other, other ≠ name → b'.checkpoints.load other = b.checkpoints.load other
  plans : b'.PlansNoConflict
  audited : ∀ m : Measure, m.IsAudited → m ≠ .folded name → b'.tally.value m = b.tally.value m

/-- A tick on its way has read, from where its follower is, the events that it is going to count. -/
inductive AuditedPhase (log : List StoredEvent) (f : Follower) : Phase → Prop
  | idle : AuditedPhase log f .idle
  | restoring : AuditedPhase log f (.waiting .restoring)
  | reading {catalog : Catalog} {position : Nat} {events : List StoredEvent}
      (hRestored : f.runner.restored = true)
      (hRead : Log.Read f.runner.position position events log) :
      AuditedPhase log f (.waiting (.reading catalog position events.length))
  | saving {catalog : Catalog} {position : Nat} {events : List StoredEvent}
      (hRestored : f.runner.restored = true)
      (hRead : Log.Read f.runner.position position events log) :
      AuditedPhase log f (.waiting (.saving catalog position events.length))
  | stored {catalog : Catalog} {position : Nat} {events : List StoredEvent}
      (hRestored : f.runner.restored = true)
      (hRead : Log.Read f.runner.position position events log) :
      AuditedPhase log f (.stored catalog position events.length)

/-- The books of a follower agree with where it is. Until it is restored it has counted nothing, and
the checkpoint of its name is the one that was held at the start. From then on it has counted the
events that it has read. -/
structure Audited (held : Option Checkpoint) (name : String) (b : Backend) (m : Member) : Prop where
  name_eq : m.follower.runner.name = name
  fresh : m.follower.runner.restored = false → m.follower.runner.position = 0 ∧
    b.tally.value (.folded name) = 0 ∧ b.checkpoints.load name = held
  read : m.follower.runner.restored = true → ∃ events,
    Log.Read (startOf held) m.follower.runner.position events b.events.log ∧
      b.tally.value (.folded name) = events.length
  phase : AuditedPhase b.events.log m.follower m.phase

variable {held : Option Checkpoint} {name other : String} {b b' : Backend} {f : Follower}
  {phase : Phase} {m : Member} {log more : List StoredEvent}

/-- Who leaves the books alone minds everybody. -/
theorem minds_of_untouched (h : b.Untouched b') (name : String) : Minds name b b' where
  events := h.events
  checkpoints := fun _ _ => by rw [h.checkpoints]
  plans := h.plans
  audited := fun m hm _ => h.audited m hm

/-- What is appended does not matter to a tick on its way. -/
theorem AuditedPhase.append (hOrder : Log.InOrder (log ++ more)) (h : AuditedPhase log f phase) :
    AuditedPhase (log ++ more) f phase := by
  cases h with
  | idle => exact .idle
  | restoring => exact .restoring
  | reading hRestored hRead => exact .reading hRestored (hRead.append hOrder)
  | saving hRestored hRead => exact .saving hRestored (hRead.append hOrder)
  | stored hRestored hRead => exact .stored hRestored (hRead.append hOrder)

/-- Books stay right as long as the log only goes on and nobody touches what they are about. -/
theorem Audited.mono (hOrder : Log.InOrder (b.events.log ++ more))
    (hLog : b'.events.log = b.events.log ++ more)
    (hHeld : b'.checkpoints.load name = b.checkpoints.load name)
    (hFolded : b'.tally.value (.folded name) = b.tally.value (.folded name))
    (h : Audited held name b m) : Audited held name b' m where
  name_eq := h.name_eq
  fresh := by
    intro hFresh
    rw [hHeld, hFolded]
    exact h.fresh hFresh
  read := by
    intro hRestored
    obtain ⟨events, hRead, hCount⟩ := h.read hRestored
    rw [hLog, hFolded]
    exact ⟨events, hRead.append hOrder, hCount⟩
  phase := by
    rw [hLog]
    exact h.phase.append hOrder

/-- Books stay right where nobody touches them. -/
theorem Audited.untouched (h : Audited held name b m) (hSame : b.Untouched b') :
    Audited held name b' m := by
  have hLog : b'.events.log = b.events.log := by rw [hSame.events]
  refine ⟨h.name_eq, ?_, ?_, ?_⟩
  · rw [hSame.checkpoints, hSame.audited (.folded name) trivial]
    exact h.fresh
  · rw [hLog, hSame.audited (.folded name) trivial]
    exact h.read
  · rw [hLog]
    exact h.phase

theorem Audited.withPhase (h : Audited held name b ⟨f, phase⟩) {next : Phase}
    (hNext : AuditedPhase b.events.log f next) : Audited held name b ⟨f, next⟩ :=
  ⟨h.name_eq, h.fresh, h.read, hNext⟩

-- ---------------------------------------------------------------------------
-- One turn of a follower
-- ---------------------------------------------------------------------------

/-- A tick that begins to read has read nothing yet. -/
theorem auditedPhase_firstReading (hRestored : f.runner.restored = true) :
    AuditedPhase log f (.before f.firstReading) := by
  have hNothing : AuditedPhase log f (.waiting (.reading f.model.catalog f.runner.position
      ([] : List StoredEvent).length)) := .reading hRestored (Log.read_nothing _ _)
  exact hNothing

/-- A follower that begins a tick is where it was, or where the checkpoint of its name is. -/
theorem Audited.begun {g : Follower} (h : Audited held name b ⟨f, phase⟩)
    (hBegun : f.begun b = .ok g) : Audited held name b ⟨g, .before g.firstReading⟩ := by
  rw [Follower.begun] at hBegun
  by_cases hRestored : f.runner.restored = true
  · rw [if_pos hRestored] at hBegun
    cases hBegun
    exact h.withPhase (auditedPhase_firstReading hRestored)
  · obtain ⟨hZero, hNone, hHeld⟩ := h.fresh (Bool.not_eq_true _ ▸ hRestored)
    have hName : f.runner.name = name := h.name_eq
    rw [if_neg hRestored, hName, hHeld, Follower.restore.eq_def] at hBegun
    cases hStart : held with
    | none =>
      rw [hStart] at hBegun
      cases hBegun
      have hPosition : f.runner.position = startOf none := hZero
      refine ⟨hName, Bool.noConfusion, fun _ => ⟨[], ?_, hNone⟩, ?_⟩
      · show Log.Read _ f.runner.position [] _
        rw [hPosition]
        exact Log.read_nothing _ _
      · exact auditedPhase_firstReading rfl
    | some c =>
      rw [hStart] at hBegun
      simp only at hBegun
      split at hBegun
      · cases hBegun
      · cases hBegun
        exact ⟨hName, Bool.noConfusion, fun _ => ⟨[], Log.read_nothing _ _, hNone⟩,
          auditedPhase_firstReading rfl⟩

/-- After a page, a tick has read the events of the page as well. -/
theorem auditedPhase_afterPage (hOrder : Log.InOrder b.events.log)
    (hRestored : f.runner.restored = true) {catalog : Catalog} {position : Nat}
    {events : List StoredEvent} {stage : TickStage}
    (hRead : Log.Read f.runner.position position events b.events.log)
    (hStage : f.afterPage catalog position events.length
      (b.events.loadSince position f.runner.batchSize) = .ok stage) :
    AuditedPhase b.events.log f (.before stage) := by
  have hPage := Log.read_page hOrder position f.runner.batchSize
  generalize b.events.loadSince position f.runner.batchSize = page at hPage hStage
  have hBoth := hRead.trans hPage
  rw [Follower.afterPage] at hStage
  split at hStage
  · split at hStage
    · cases hStage
      exact .idle
    · cases hStage
      exact .saving hRestored hRead
  · next last hLast =>
    have hReached : Log.reached position page = last.sequence := by
      rw [Log.reached, hLast]
      rfl
    rw [hReached] at hBoth
    obtain ⟨next, -, hStage⟩ := bind_eq_ok.mp hStage
    rw [← List.length_append] at hStage
    split at hStage
    · cases hStage
      exact .saving hRestored hBoth
    · cases hStage
      exact .reading hRestored hBoth

/-- What a turn of a follower leaves: others find nothing changed, and its own books are right. -/
structure Accounts (held : Option Checkpoint) (name : String) (b : Backend) (f : Follower)
    (outcome : Except Failure (Follower × Phase) × Backend) : Prop where
  minds : Minds name b outcome.2
  failed : ∀ e, outcome.1 = .error e → Audited held name outcome.2 ⟨f, .idle⟩
  done : ∀ g next, outcome.1 = .ok (g, next) → Audited held name outcome.2 ⟨g, next⟩

theorem accounts_failed (hMinds : Minds name b b') {e : Failure}
    (h : Audited held name b' ⟨f, .idle⟩) : Accounts held name b f (.error e, b') :=
  ⟨hMinds, fun _ _ => h, fun _ _ hDone => (nomatch hDone)⟩

theorem accounts_done (hMinds : Minds name b b') {g : Follower} {next : Phase}
    (h : Audited held name b' ⟨g, next⟩) : Accounts held name b f (.ok (g, next), b') := by
  refine ⟨hMinds, fun _ hFailed => (nomatch hFailed), fun g' next' hDone => ?_⟩
  cases hDone
  exact h

/-- A stored checkpoint counts nothing, and only a restored follower stores one. -/
theorem Audited.stored {catalog : Catalog} {position : Nat} {events : List StoredEvent}
    (h : Audited held name b ⟨f, .stored catalog position events.length⟩)
    (hRestored : f.runner.restored = true) (c : Checkpoint) :
    Audited held name { b with checkpoints := b.checkpoints.save c }
      ⟨f, .stored catalog position events.length⟩ :=
  ⟨h.name_eq, fun hFresh => absurd (hRestored.symm.trans hFresh) Bool.noConfusion, h.read, h.phase⟩

/-- **Settling** is the one turn that counts, and the one that moves the follower. -/
theorem Audited.settle (hb : b.PlansNoConflict) {catalog : Catalog} {position : Nat}
    {events : List StoredEvent} (h : Audited held name b ⟨f, phase⟩)
    (hRestored : f.runner.restored = true)
    (hRead : Log.Read f.runner.position position events b.events.log) (now : Instant) :
    Accounts held name b f (((Phase.stored catalog position events.length).work now f).run b) := by
  obtain ⟨before, hBefore, hCount⟩ := h.read hRestored
  have hName : f.runner.name = name := h.name_eq
  obtain ⟨b', hRun, hEvents, hCheckpoints, hPlans, hTally⟩ :
      ∃ b', ((Phase.stored catalog position events.length).work now f).run b =
          (.ok (f.advanceTo catalog position, .idle), b') ∧
        b'.events = b.events ∧ b'.checkpoints = b.checkpoints ∧ b'.outages = b.outages ∧
        b'.tally = (b.tally.add (.folded f.runner.name) events.length).set
          (.position f.runner.name) position := ⟨_, rfl, rfl, rfl, rfl, rfl⟩
  -- the position is a measure that is not audited, so only the count of the name moves
  have hValue (m : Measure) (hm : m.IsAudited) : b'.tally.value m =
      if m = .folded name then b.tally.value m + events.length else b.tally.value m := by
    have hNotPosition : m ≠ .position f.runner.name := by
      rintro rfl
      exact hm
    rw [hTally, Tally.value_set_of_ne hNotPosition, Tally.value_add, hName]
  have hMinds : Minds name b b' := by
    refine ⟨hEvents, fun _ _ => by rw [hCheckpoints], ?_, fun m hm hOther => ?_⟩
    · rw [Backend.PlansNoConflict, hPlans]
      exact hb
    · rw [hValue m hm, if_neg hOther]
  have hCounted : b'.tally.value (.folded name) = (before ++ events).length := by
    rw [hValue (.folded name) trivial, if_pos rfl, hCount, List.length_append]
  have hNext : Audited held name b' ⟨f.advanceTo catalog position, .idle⟩ := by
    refine ⟨hName, fun hFresh => absurd (hRestored.symm.trans hFresh) Bool.noConfusion,
      fun _ => ⟨before ++ events, ?_, hCounted⟩, .idle⟩
    rw [hEvents]
    exact hBefore.trans hRead
  rw [hRun]
  exact accounts_done hMinds hNext

/-- **A turn of a follower keeps its books.** -/
theorem Audited.work (hb : b.PlansNoConflict) (hOrder : Log.InOrder b.events.log)
    (h : Audited held name b ⟨f, phase⟩) (now : Instant) :
    Accounts held name b f ((phase.work now f).run b) := by
  have hIdle : Audited held name b ⟨f, .idle⟩ := h.withPhase .idle
  cases h.phase with
  | idle => exact accounts_done (minds_of_untouched (Backend.untouched_self hb) name) h
  | restoring =>
    obtain ⟨b', -, ⟨e, hRun⟩ | ⟨g, hBegun, hRun⟩⟩ := Follower.run_restoring_or now f b
    all_goals
      have hWork : ((Phase.waiting .restoring).work now f).run b = _ := run_before hRun
      have hSame := (Follower.leavesAudit_restoring now f b hb).1
      rw [hRun] at hSame
      rw [hWork]
    · exact accounts_failed (minds_of_untouched hSame name) (hIdle.untouched hSame)
    · exact accounts_done (minds_of_untouched hSame name) ((h.begun hBegun).untouched hSame)
  | @reading catalog position events hRestored hRead =>
    obtain ⟨b', -, ⟨e, -, hRun⟩ | ⟨stage, hStage, hRun⟩⟩ :=
      Follower.run_reading_or now f b catalog position events.length
    all_goals
      have hWork : ((Phase.waiting (.reading catalog position events.length)).work now f).run b =
        _ := run_before hRun
      have hSame := (Follower.leavesAudit_reading now f catalog position events.length b hb).1
      rw [hRun] at hSame
      rw [hWork]
    · exact accounts_failed (minds_of_untouched hSame name) (hIdle.untouched hSame)
    · have hNext := h.withPhase (auditedPhase_afterPage hOrder hRestored hRead hStage)
      exact accounts_done (minds_of_untouched hSame name) (hNext.untouched hSame)
  | @saving catalog position events hRestored hRead =>
    -- the checkpoint may be stored or not; nothing is counted yet
    obtain ⟨hSame, -⟩ := Operation.leavesAudit_reach .saveCheckpoint b hb
    rw [Phase.work, Operation.run_bind, Operation.saveCheckpoint, Operation.run_bind]
    rcases hReach : (Operation.reach .saveCheckpoint).run b with ⟨e | _, b'⟩
    · rw [hReach] at hSame
      exact accounts_failed (minds_of_untouched hSame name) (hIdle.untouched hSame)
    · rw [hReach] at hSame
      simp only
      rw [Operation.run_modify]
      have hLoad (other : String) (hOther : other ≠ name) :
          (b'.checkpoints.save (f.checkpoint now catalog position)).load other =
            b.checkpoints.load other := by
        have hNotOwn : other ≠ (f.checkpoint now catalog position).name := by
          show other ≠ f.runner.name
          rwa [h.name_eq]
        rw [CheckpointStore.load_save, if_neg hNotOwn, hSame.checkpoints]
      have hMinds : Minds name b
          { b' with checkpoints := b'.checkpoints.save (f.checkpoint now catalog position) } :=
        ⟨hSame.events, hLoad, hSame.plans, fun m hm _ => hSame.audited m hm⟩
      have hNext : Audited held name b' ⟨f, .stored catalog position events.length⟩ :=
        (h.withPhase (.stored hRestored hRead)).untouched hSame
      exact accounts_done hMinds (hNext.stored hRestored _)
  | @stored catalog position events hRestored hRead => exact h.settle hb hRestored hRead now

-- ---------------------------------------------------------------------------
-- Turns of the world
-- ---------------------------------------------------------------------------

namespace World

/-- The world before any turn, with followers of the given names: nothing has been appended and
nothing counted. There may be checkpoints, and outages may be planned. -/
def uncounted (names : Nat → String) (sizes : Nat → Nat) (checkpoints : CheckpointStore)
    (outages : OutagePlan) : World :=
  ⟨⟨.empty, checkpoints, outages, .empty, 0⟩, fun i => .new (names i) (sizes i)⟩

/-- How many of the appends among the turns are answered as conflicts. -/
def refusals (w : World) : List Turn → Nat
  | [] => 0
  | .append a :: turns =>
    (Operation.isRefusal ((Operation.append a.now a.id a.expected a.batch).run w.backend).1).toNat
      + (w.step (.append a)).refusals turns
  | turn :: turns => (w.step turn).refusals turns

end World

/-- All books are right. -/
structure AuditedWorld (names : Nat → String) (checkpoints : CheckpointStore) (w : World) :
    Prop where
  plans : w.backend.PlansNoConflict
  coherent : w.backend.events.Coherent
  appended : ∀ kind, w.backend.tally.value (.appended kind) = w.log.countP fun e => e.kind = kind
  failures : w.backend.tally.value (.failures .concurrencyConflict) =
    w.backend.tally.value .conflicts
  member : ∀ i, Audited (checkpoints.load (names i)) (names i) w.backend (w.member i)

variable {names : Nat → String} {checkpoints : CheckpointStore} {w : World}

theorem AuditedWorld.inOrder (h : AuditedWorld names checkpoints w) : Log.InOrder w.log :=
  Log.inOrder_of_coherent h.coherent

/-- At the start, with nothing counted, the books are right. -/
theorem auditedWorld_uncounted (names : Nat → String) (sizes : Nat → Nat)
    (checkpoints : CheckpointStore) {outages : OutagePlan}
    (hOutages : ∀ call f, some f ∈ outages call → f.code ≠ .concurrencyConflict) :
    AuditedWorld names checkpoints (.uncounted names sizes checkpoints outages) where
  plans := hOutages
  coherent := EventStore.coherent_empty
  appended := fun _ => rfl
  failures := rfl
  member := fun _ => ⟨rfl, fun _ => ⟨rfl, rfl, rfl⟩, nofun, .idle⟩

/-- A follower's turn keeps all books: its own, and those of others, whose names are different. -/
theorem AuditedWorld.update (hNames : Function.Injective names)
    (h : AuditedWorld names checkpoints w) (i : Nat) {b : Backend} {m : Member}
    (hMinds : Minds (names i) w.backend b)
    (hOwn : Audited (checkpoints.load (names i)) (names i) b m) :
    AuditedWorld names checkpoints ⟨b, Function.update w.member i m⟩ := by
  have hSame (measure : Measure) (hm : measure.IsAudited)
      (hOther : ∀ name, measure ≠ .folded name) :
      b.tally.value measure = w.backend.tally.value measure :=
    hMinds.audited measure hm (hOther (names i))
  have hLog : b.events.log = w.log ++ [] := by rw [hMinds.events, List.append_nil]
  refine ⟨hMinds.plans, ?_, fun kind => ?_, ?_, fun j => ?_⟩
  · rw [hMinds.events]
    exact h.coherent
  · show b.tally.value (.appended kind) = b.events.log.countP fun e => e.kind = kind
    rw [hSame (.appended kind) trivial nofun, hMinds.events]
    exact h.appended kind
  · show b.tally.value (.failures .concurrencyConflict) = b.tally.value .conflicts
    rw [hSame (.failures .concurrencyConflict) rfl nofun, hSame .conflicts trivial nofun]
    exact h.failures
  · show Audited _ _ b (Function.update w.member i m j)
    -- names differ, so the books of the others are not touched
    by_cases hj : j = i
    · rw [hj, Function.update_self]
      exact hOwn
    · have hName : names j ≠ names i := fun hEq => hj (hNames hEq)
      have hFolded : Measure.folded (names j) ≠ .folded (names i) :=
        fun hEq => hName (Measure.folded.inj hEq)
      rw [Function.update_of_ne hj]
      refine Audited.mono ?_ hLog ?_ ?_ (h.member j)
      · rw [List.append_nil]
        exact h.inOrder
      · exact hMinds.checkpoints _ hName
      · exact hMinds.audited _ trivial hFolded

/-- A tick that is set to another phase leaves the books right if it has read what it is going to
count. -/
theorem AuditedWorld.withPhase (hNames : Function.Injective names)
    (h : AuditedWorld names checkpoints w) (i : Nat) {phase : Phase}
    (hPhase : AuditedPhase w.log (w.member i).follower phase) :
    AuditedWorld names checkpoints (w.withPhase i phase) :=
  h.update hNames i (minds_of_untouched (Backend.untouched_self h.plans) _)
    ((h.member i).withPhase hPhase)

/-- **A turn of a follower** keeps all books, and no conflict comes of it. -/
theorem AuditedWorld.advance (hNames : Function.Injective names)
    (h : AuditedWorld names checkpoints w) (i : Nat) (now : Instant) :
    AuditedWorld names checkpoints (w.advance i now) ∧
      (w.advance i now).backend.tally.value .conflicts = w.backend.tally.value .conflicts := by
  have hWork := (h.member i).work h.plans h.inOrder now
  rw [World.advance]
  rcases hRun : ((w.member i).phase.work now (w.member i).follower).run w.backend with
    ⟨e | ⟨g, next⟩, b⟩
  · rw [hRun] at hWork
    exact ⟨h.update hNames i hWork.minds (hWork.failed e rfl),
      hWork.minds.audited .conflicts trivial (by simp)⟩
  · rw [hRun] at hWork
    exact ⟨h.update hNames i hWork.minds (hWork.done g next rfl),
      hWork.minds.audited .conflicts trivial (by simp)⟩

/-- **An append** keeps all books, whatever comes of it. -/
theorem AuditedWorld.append (h : AuditedWorld names checkpoints w) (a : EventStore.Attempt) :
    AuditedWorld names checkpoints (w.step (.append a)) := by
  obtain ⟨more, hBooks⟩ := Operation.run_append_books h.plans a
  have hCoherent : (w.step (.append a)).backend.events.Coherent := by
    rcases hBooks.events with hEvents | hEvents
    · rw [World.step, hEvents]
      exact h.coherent
    · rw [World.step, hEvents]
      exact h.coherent.attempt a
  have hOrder : Log.InOrder (w.log ++ more) := by
    rw [← hBooks.log]
    exact Log.inOrder_of_coherent hCoherent
  refine ⟨hBooks.plans, hCoherent, fun kind => ?_, ?_, fun i => ?_⟩
  · show _ = (w.step (.append a)).backend.events.log.countP _
    rw [World.step, hBooks.appended, h.appended, hBooks.log, List.countP_append]
  · rw [World.step, hBooks.failures, hBooks.conflicts, h.failures]
  · refine (h.member i).mono hOrder hBooks.log ?_ (hBooks.folded _)
    rw [World.step, hBooks.checkpoints]

/-- **A turn keeps all books**, and conflicts are counted as they are answered. -/
theorem AuditedWorld.step (hNames : Function.Injective names)
    (h : AuditedWorld names checkpoints w) (turn : Turn) :
    AuditedWorld names checkpoints (w.step turn) ∧
      (w.step turn).backend.tally.value .conflicts =
        w.backend.tally.value .conflicts + w.refusals [turn] := by
  cases turn with
  | append a =>
    obtain ⟨more, hBooks⟩ := Operation.run_append_books h.plans a
    exact ⟨h.append a, hBooks.conflicts⟩
  | begin i =>
    refine ⟨?_, ?_⟩
    · rw [World.step]
      split
      · exact h.withPhase hNames i .restoring
      · exact h
    · rw [World.step]
      split <;> rfl
  | advance i now => exact h.advance hNames i now
  | abandon i => exact ⟨h.withPhase hNames i .idle, rfl⟩

theorem refusals_cons (w : World) (turn : Turn) (turns : List Turn) :
    w.refusals (turn :: turns) = w.refusals [turn] + (w.step turn).refusals turns := by
  cases turn with
  | append a => rfl
  | begin i => exact (Nat.zero_add _).symm
  | advance i now => exact (Nat.zero_add _).symm
  | abandon i => exact (Nat.zero_add _).symm

-- ---------------------------------------------------------------------------
-- Runs
-- ---------------------------------------------------------------------------

/-- **Every run** keeps the books right and counts each append that was refused. -/
theorem AuditedWorld.run (hNames : Function.Injective names)
    (h : AuditedWorld names checkpoints w) (turns : List Turn) :
    AuditedWorld names checkpoints (w.run turns) ∧
      (w.run turns).backend.tally.value .conflicts =
        w.backend.tally.value .conflicts + w.refusals turns := by
  induction turns generalizing w with
  | nil => exact ⟨h, rfl⟩
  | cons turn turns ih =>
    obtain ⟨hStep, hConflicts⟩ := h.step hNames turn
    obtain ⟨hRun, hMore⟩ := ih hStep
    refine ⟨hRun, ?_⟩
    rw [refusals_cons, ← Nat.add_assoc, ← hConflicts]
    exact hMore

/-- What a follower has counted are the events between its start and its position. -/
theorem Audited.folded_eq (hOrder : Log.InOrder b.events.log) (h : Audited held name b m) :
    b.tally.value (.folded name) =
      (Log.between (startOf held) m.follower.runner.position b.events.log).length := by
  cases hRestored : m.follower.runner.restored with
  | false =>
    -- not restored yet, so it is at zero and there is nothing in between
    obtain ⟨hZero, hNone, -⟩ := h.fresh hRestored
    have hEmpty : Log.between (startOf held) 0 b.events.log = [] := by
      refine List.filter_eq_nil_iff.mpr fun e _ => ?_
      simp only [decide_eq_true_eq]
      omega
    rw [hNone, hZero, hEmpty, List.length_nil]
  | true =>
    obtain ⟨events, hRead, hCount⟩ := h.read hRestored
    rw [hCount, ← hRead.eq_between hOrder]

/-- **Counters agree with what is stored.** From an empty log and empty counters on, with followers
of different names that find any checkpoints, and with stores that are out of order at any calls,
whatever becomes of appends and ticks:

* the events appended of each kind are as many as the log has of that kind;
* the conflicts are as many as appends have been answered as conflicts, and as failures of that
  code;
* the events that a follower has folded are as many as the log has at or below its position, above
  the checkpoint that it was restored from if there was one.

A whole tick of a follower with none under way, however it ends, comes to what some more turns come
to, so all of this holds after it as well. -/
theorem counted_run (names : Nat → String) (hNames : Function.Injective names)
    (sizes : Nat → Nat) (checkpoints : CheckpointStore) (outages : OutagePlan)
    (hOutages : ∀ call f, some f ∈ outages call → f.code ≠ .concurrencyConflict)
    (turns : List Turn) :
    let start := World.uncounted names sizes checkpoints outages
    let w := start.run turns
    (∀ kind, w.backend.tally.value (.appended kind) = w.log.countP fun e => e.kind = kind) ∧
    w.backend.tally.value .conflicts = start.refusals turns ∧
    w.backend.tally.value (.failures .concurrencyConflict) = start.refusals turns ∧
    (∀ i, w.backend.tally.value (.folded (names i)) =
      match checkpoints.load (names i) with
      | none => (Log.upTo (w.position i) w.log).length
      | some c => (Log.between c.position (w.position i) w.log).length) ∧
    ∀ i now result f b, (w.member i).phase = .idle →
      (Follower.tick now (w.member i).follower).run w.backend = ((result, f), b) →
        ∃ more, start.run (turns ++ more) = w.withMember i b f .idle := by
  intro start w
  have hStart : AuditedWorld names checkpoints start :=
    auditedWorld_uncounted names sizes checkpoints hOutages
  obtain ⟨hAudited, hConflicts⟩ := hStart.run hNames turns
  have hRefusals : w.backend.tally.value .conflicts = start.refusals turns :=
    hConflicts.trans (Nat.zero_add _)
  refine ⟨hAudited.appended, hRefusals, hAudited.failures.trans hRefusals, fun i => ?_, ?_⟩
  · have hFolded := (hAudited.member i).folded_eq hAudited.inOrder
    cases hHeld : checkpoints.load (names i) with
    | none =>
      rw [hHeld] at hFolded
      rw [hFolded]
      exact congrArg List.length (Log.between_zero hAudited.coherent _)
    | some c =>
      rw [hHeld] at hFolded
      exact hFolded
  · intro i now result f b hIdle hTick
    -- a tick that is not interrupted is some more turns
    obtain ⟨more, -, hMore⟩ := w.leads_tick hIdle hTick
    exact ⟨more, (List.foldl_append ..).trans hMore⟩

/-- Names of different lengths. -/
def lengthNames (i : Nat) : String := String.ofList (List.replicate i 'p')

theorem lengthNames_injective : Function.Injective lengthNames := by
  intro i j h
  have hLists : List.replicate i 'p' = List.replicate j 'p' := by
    have hSame := congrArg String.toList h
    rwa [lengthNames, lengthNames, String.toList_ofList, String.toList_ofList] at hSame
  have hLengths := congrArg List.length hLists
  rwa [List.length_replicate, List.length_replicate] at hLengths

/-- The second name has a checkpoint behind the first event. -/
def oneCheckpoint : CheckpointStore :=
  CheckpointStore.empty.save ⟨lengthNames 1, 1, Catalog.empty.toJson, default⟩

/-- The first checkpoint that is saved is not stored. -/
def oneOutage : OutagePlan
  | .saveCheckpoint => [some (.outage .databaseError "full")]
  | _ => []

/-- Three appends, of which the second is refused, and then three ticks. -/
def threeTicks : List Turn :=
  let created := (TemplateEvent.created "a" "" .empty default).toNewEvent
  let tick (i : Nat) : List Turn :=
    [.begin i, .advance i default, .advance i default, .advance i default, .advance i default]
  [.append ⟨default, .ofNat 1, 0, [created]⟩, .append ⟨default, .ofNat 1, 0, [created]⟩,
    .append ⟨default, .ofNat 2, 0, [created, created]⟩] ++ tick 0 ++ tick 0 ++ tick 1

/-- The first follower cannot store its checkpoint and folds the log again; the second one is
restored behind the first event. -/
theorem counted_run_threeTicks :
    let start := World.uncounted lengthNames (fun _ => 10) oneCheckpoint oneOutage
    let w := start.run threeTicks
    Function.Injective lengthNames ∧
      (∀ call f, some f ∈ oneOutage call → f.code ≠ .concurrencyConflict) ∧
      w.backend.tally.value (.appended TemplateEvent.createdKind) = 3 ∧
      w.backend.tally.value .conflicts = 1 ∧
      w.backend.tally.value (.failures .concurrencyConflict) = 1 ∧
      w.backend.tally.value (.folded (lengthNames 0)) = 3 ∧
      w.backend.tally.value (.folded (lengthNames 1)) = 2 := by
  have hOutages : ∀ call f, some f ∈ oneOutage call → f.code ≠ .concurrencyConflict := by
    intro call f hf
    cases call with
    | saveCheckpoint =>
      cases List.mem_singleton.mp hf
      exact nofun
    | append => cases hf
    | load => cases hf
    | loadSince => cases hf
    | loadCheckpoint => cases hf
  have hCounted := counted_run lengthNames lengthNames_injective (fun _ => 10) oneCheckpoint
    oneOutage hOutages threeTicks
  have hFirst : oneCheckpoint.load (lengthNames 0) = none := by decide +kernel
  have hSecond : oneCheckpoint.load (lengthNames 1) =
      some ⟨lengthNames 1, 1, Catalog.empty.toJson, default⟩ := rfl
  dsimp only at hCounted ⊢
  obtain ⟨hAppended, hConflicts, hFailures, hFolded, -⟩ := hCounted
  rw [hAppended, hConflicts, hFailures, hFolded 0, hFolded 1, hFirst, hSecond]
  exact ⟨lengthNames_injective, hOutages, by decide +kernel, by decide +kernel, by decide +kernel,
    by decide +kernel, by decide +kernel⟩

end Projection

end Galley
