import Galley.Projection.Runner
import Galley.Proofs.Log.Pages
import Galley.Proofs.Projection.Fold
import Galley.Proofs.Storage.Steady

/-!
# Ticks

A tick goes from stage to stage. Each stage is told here by what it does on steady storage
(`run_restoring`, `run_reading`, `run_saving`), whatever other writers did before it. Between the
first stage and the last there are as many pages as it takes; if nobody appends in the meantime, the
size of the pages does not show: the events that were left when the tick began are folded, and the
tick has come to the last of them (`prepare_reading`).

Main results:

* `run_restoring`, `run_reading`, `run_saving` — what each stage does.
* `prepare_reading` — the log is read to its end, in pages of any size.
* `tick_quiet` — a tick on a log that nobody appends to.
-/

namespace Galley

namespace Follower

/-- The stages of a tick that has read what there was. -/
inductive HasRead : TickStage → Prop
  | saving (catalog : Catalog) (position folded : Nat) : HasRead (.saving catalog position folded)
  | done (outcome : TickOutcome) : HasRead (.done outcome)

/-- How a follower begins a tick: from the checkpoint of its name, unless it has done so before. -/
def begun (f : Follower) (b : Backend) : Except Failure Follower :=
  if f.runner.restored then .ok f else f.restore (b.checkpoints.load f.runner.name)

/-- The last stage but one of a tick that has read the rest of the log, with so many events folded
before. -/
def stageAfter (catalog : Catalog) (position folded : Nat) (rest : List StoredEvent) :
    Except Failure TickStage :=
  (catalog.foldAll rest).map fun next =>
    if folded + rest.length = 0 then .done ⟨0, position⟩
    else .saving next (Log.reached position rest) (folded + rest.length)

/-- What comes of a tick that finds the given events behind its position. -/
def ticked (f : Follower) (rest : List StoredEvent) : Ticked :=
  match f.model.catalog.foldAll rest with
  | .ok next =>
    (.ok ⟨rest.length, Log.reached f.runner.position rest⟩,
      f.advanceTo next (Log.reached f.runner.position rest))
  | .error e => (.error e, f)

/-- The checkpoints after such a tick: there is a new one if anything was folded. -/
def checkpointed (f : Follower) (now : Instant) (rest : List StoredEvent) (s : CheckpointStore) :
    CheckpointStore :=
  match f.model.catalog.foldAll rest with
  | .ok next =>
    if rest.length = 0 then s
    else s.save (f.checkpoint now next (Log.reached f.runner.position rest))
  | .error _ => s

variable {f g : Follower} {b : Backend} {catalog next : Catalog} {position folded : Nat}
  {now : Instant}

-- ---------------------------------------------------------------------------
-- Stages
-- ---------------------------------------------------------------------------

/-- A computation that needs no storage leaves it as it was, but that a failure is counted. -/
theorem run_ofExcept_bind {α β : Type} (x : Except Failure α) (give : α → β) (b : Backend) :
    ∃ b', (Operation.ofExcept x >>= fun y => pure (give y)).run b = (x.map give, b') ∧
      b.Agrees b' := by
  cases x with
  | ok y => exact ⟨b, rfl, .refl b⟩
  | error e => exact ⟨_, rfl, b.agrees_count _ _⟩

/-- **Restoring** gives the follower the state of its checkpoint, unless it has it already. -/
theorem run_restoring (now : Instant) (f : Follower) (hb : b.IsSteady) :
    ∃ b', (step now f .restoring).run b = ((f.begun b).map fun g => (g, g.firstReading), b') ∧
      b.Agrees b' := by
  rw [step, begun]
  split
  · exact ⟨b, rfl, .refl b⟩
  · rw [Operation.run_bind, Operation.run_loadCheckpoint hb]
    exact run_ofExcept_bind _ _ b

/-- **Reading** folds a page. -/
theorem run_reading (now : Instant) (f : Follower) (hb : b.IsSteady) (catalog : Catalog)
    (position folded : Nat) :
    ∃ b', (step now f (.reading catalog position folded)).run b =
        ((f.afterPage catalog position folded
          (b.events.loadSince position f.runner.batchSize)).map fun stage => (f, stage), b') ∧
      b.Agrees b' := by
  rw [step, Operation.run_bind, Operation.run_loadSince hb]
  obtain ⟨b', hRun, hAgrees⟩ := run_ofExcept_bind
    (f.afterPage catalog position folded (b.events.loadSince position f.runner.batchSize))
    (fun stage => (f, stage)) { b with pageReads := b.pageReads + 1 }
  exact ⟨b', hRun, hAgrees.events, hAgrees.checkpoints, hAgrees.outages⟩

/-- **Saving** stores a checkpoint and shows the new catalog. -/
theorem run_saving (now : Instant) (f : Follower) (hb : b.IsSteady) (catalog : Catalog)
    (position folded : Nat) :
    ∃ b', (step now f (.saving catalog position folded)).run b =
        (.ok (f.advanceTo catalog position, .done ⟨folded, position⟩), b') ∧
      Backend.Agrees
        { b with checkpoints := b.checkpoints.save (f.checkpoint now catalog position) } b' := by
  rw [step, Operation.run_bind, Operation.run_saveCheckpoint hb]
  exact ⟨_, rfl, rfl, rfl, rfl⟩

-- ---------------------------------------------------------------------------
-- Reading to the end
-- ---------------------------------------------------------------------------

theorem run_then {α β : Type} {first : StateM Backend α} {next : α → StateM Backend β} {x : α}
    {b b' : Backend} (h : first.run b = (x, b')) : (first >>= next).run b = (next x).run b' := by
  rw [StateT.run_bind, h]
  rfl

/-- A tick that has read what there was waits to be ended. -/
theorem prepare_of_hasRead {stage : TickStage} (h : HasRead stage) (now : Instant) (fuel : Nat)
    (f : Follower) (b : Backend) : (prepare now fuel f stage).run b = ((.ok stage, f), b) := by
  cases fuel with
  | zero => rfl
  | succ fuel =>
    cases h with
    | saving catalog position folded => rfl
    | done outcome => rfl

/-- Any other tick takes its next stage. -/
theorem prepare_succ {stage : TickStage} (h : ¬ HasRead stage) (now : Instant) (fuel : Nat)
    (f : Follower) :
    prepare now (fuel + 1) f stage = ExceptT.run (step now f stage) >>= fun
      | .ok (g, next) => prepare now fuel g next
      | .error e => return (.error e, f) := by
  cases stage with
  | restoring => rfl
  | reading catalog position folded => rfl
  | saving catalog position folded => exact absurd (.saving _ _ _) h
  | done outcome => exact absurd (.done _) h

/-- When the rest of the log has been read, reading is over. -/
theorem hasRead_stageAfter {rest : List StoredEvent} {stage : TickStage}
    (h : stageAfter catalog position folded rest = .ok stage) : HasRead stage := by
  obtain ⟨next, -, rfl⟩ := map_eq_ok.mp h
  split
  · exact .done _
  · exact .saving _ _ _

/-- Reading a page and then the rest is reading both. -/
theorem stageAfter_append {page rest : List StoredEvent} {last : StoredEvent}
    (hLast : page.getLast? = some last) (hFold : catalog.foldAll page = .ok next) :
    stageAfter catalog position folded (page ++ rest) =
      stageAfter next last.sequence (folded + page.length) rest := by
  have hSome : 0 < page.length := List.length_pos_of_mem (List.mem_of_getLast? hLast)
  rw [stageAfter, stageAfter, Catalog.foldAll_append, hFold, Log.reached_append hLast,
    List.length_append, ← Nat.add_assoc]
  show (next.foldAll rest).map _ = _
  simp only [show folded + page.length + rest.length ≠ 0 by omega, if_false]

/-- What a page makes of a stage: it is what the rest of the log makes of it, or the page is full
and the tick goes on behind it. -/
theorem afterPage_eq (hSize : 1 ≤ f.runner.batchSize) (catalog : Catalog) (position folded : Nat)
    (rest : List StoredEvent) :
    f.afterPage catalog position folded (rest.take f.runner.batchSize) =
        stageAfter catalog position folded rest ∨
      ∃ page more last next, rest = page ++ more ∧ page.getLast? = some last ∧
        catalog.foldAll page = .ok next ∧
        f.afterPage catalog position folded (rest.take f.runner.batchSize) =
          .ok (.reading next last.sequence (folded + page.length)) := by
  generalize hPage : rest.take f.runner.batchSize = page
  have hParts : page ++ rest.drop f.runner.batchSize = rest := by
    rw [← hPage, List.take_append_drop]
  have hLength : page.length = min f.runner.batchSize rest.length := by
    rw [← hPage, List.length_take]
  rw [afterPage]
  -- a page is empty, or cannot be folded, or is short, and only a full one is not the last
  cases hLast : page.getLast? with
  | none =>
    have hNone : rest = [] := by
      rw [List.getLast?_eq_none_iff.mp hLast, List.length_nil] at hLength
      exact List.length_eq_zero_iff.mp (by omega)
    left
    rw [hNone, stageAfter, Log.reached]
    show _ = Except.ok (if folded = 0 then _ else _)
    by_cases hFolded : folded = 0
    · rw [if_pos hFolded, if_pos hFolded]
    · rw [if_neg hFolded, if_neg hFolded]
      rfl
  | some last =>
    cases hFold : catalog.foldAll page with
    | error e =>
      left
      rw [stageAfter, ← hParts, Catalog.foldAll_append, hFold]
      rfl
    | ok next =>
      by_cases hFull : page.length < f.runner.batchSize
      · have hAll : rest = page := by
          rw [← hParts, List.drop_eq_nil_of_le (by omega), List.append_nil]
        left
        rw [hAll, ← List.append_nil page, stageAfter_append hLast hFold, List.append_nil]
        show (if _ then _ else _) = _
        have hSome : 0 < page.length := List.length_pos_of_mem (List.mem_of_getLast? hLast)
        have hFolded : folded + page.length ≠ 0 := by omega
        rw [if_pos hFull, stageAfter]
        simp only [Catalog.foldAll, Except.map, List.length_nil, Nat.add_zero, if_neg hFolded]
        rfl
      · right
        refine ⟨page, _, last, next, hParts.symm, hLast, hFold, ?_⟩
        show (if _ then _ else _) = _
        rw [if_neg hFull]
        rfl

/-- **The log is read to its end**, in pages of any size: the tick gets to the stage that comes of
all events behind its position. -/
theorem prepare_reading (now : Instant) (hSize : 1 ≤ f.runner.batchSize) :
    ∀ (fuel : Nat) {b : Backend} (catalog : Catalog) (position folded : Nat), b.IsSteady →
      Log.InOrder b.events.log → (Log.above position b.events.log).length < fuel →
      ∃ b', (prepare now fuel f (.reading catalog position folded)).run b =
          ((stageAfter catalog position folded (Log.above position b.events.log), f), b') ∧
        b.Agrees b' := by
  intro fuel
  induction fuel with
  | zero => exact fun _ _ _ _ _ hFuel => absurd hFuel (Nat.not_lt_zero _)
  | succ fuel ih =>
    intro b catalog position folded hb hOrder hFuel
    obtain ⟨b', hRun, hAgrees⟩ := run_reading now f hb catalog position folded
    rw [Log.loadSince_eq hOrder] at hRun
    have hGoing : ¬ HasRead (.reading catalog position folded) := by intro h; cases h
    rw [prepare_succ hGoing, run_then hRun]
    rcases afterPage_eq hSize catalog position folded (Log.above position b.events.log) with
      hEnd | ⟨page, more, last, next, hParts, hLast, hFold, hNext⟩
    · -- the page was the last one
      refine ⟨b', ?_, hAgrees⟩
      rw [hEnd]
      cases hStage : stageAfter catalog position folded (Log.above position b.events.log) with
      | error e => rfl
      | ok stage => exact prepare_of_hasRead (hasRead_stageAfter hStage) now fuel f b'
    · -- the rest is shorter by the page
      obtain ⟨-, hRest⟩ := hOrder.page hParts hLast
      have hShorter : more.length < fuel := by
        have hSome : 0 < page.length := List.length_pos_of_mem (List.mem_of_getLast? hLast)
        rw [hParts, List.length_append] at hFuel
        omega
      rw [← hAgrees.events] at hOrder hRest
      obtain ⟨b'', hMore, hAgrees'⟩ := ih next last.sequence (folded + page.length)
        (hAgrees.isSteady hb) hOrder (by rwa [hRest])
      refine ⟨b'', ?_, hAgrees.trans hAgrees'⟩
      rw [hNext, hParts, stageAfter_append hLast hFold, ← hRest]
      exact hMore

-- ---------------------------------------------------------------------------
-- Whole ticks
-- ---------------------------------------------------------------------------

/-- A follower restored from a checkpoint whose state can be read. -/
theorem restore_some (f : Follower) {c : Checkpoint}
    (hState : Catalog.ofJson c.state = .ok catalog) :
    f.restore (some c) =
      .ok {
        runner := { f.runner with position := c.position, restored := true }
        model := { f.model with catalog := catalog } } := by
  rw [restore.eq_def]
  simp only [hState]

/-- How a tick ends that has read all there was. -/
theorem run_finish (now : Instant) (hb : b.IsSteady) {rest : List StoredEvent} {stage : TickStage}
    (hStage : stageAfter f.model.catalog f.runner.position 0 rest = .ok stage) :
    ∃ b', (finish now f stage).run b = (f.ticked rest, b') ∧
      Backend.Agrees { b with checkpoints := f.checkpointed now rest b.checkpoints } b' := by
  obtain ⟨next, hFold, rfl⟩ := map_eq_ok.mp hStage
  rw [ticked, checkpointed, hFold, Nat.zero_add]
  simp only
  by_cases hNone : rest.length = 0
  · rw [List.length_eq_zero_iff.mp hNone] at hFold ⊢
    cases hFold
    exact ⟨b, rfl, .refl b⟩
  · rw [if_neg hNone, if_neg hNone]
    obtain ⟨b', hSaved, hAgrees⟩ := run_saving now f hb next
      (Log.reached f.runner.position rest) rest.length
    refine ⟨b', ?_, hAgrees⟩
    rw [finish]
    exact run_then hSaved

/-- **A tick on a log that nobody appends to** finds the events behind the position at which the
follower begins, in whatever pages it reads them. They are folded all or not at all. -/
theorem tick_quiet (now : Instant) (hb : b.IsSteady) (hOrder : Log.InOrder b.events.log)
    (hSize : 1 ≤ g.runner.batchSize) (hBegun : f.begun b = .ok g) :
    ∃ b', (tick now f).run b = (g.ticked (Log.above g.runner.position b.events.log), b') ∧
      Backend.Agrees
        { b with
          checkpoints :=
            g.checkpointed now (Log.above g.runner.position b.events.log) b.checkpoints }
        b' := by
  have hGet : (get : StateM Backend Backend).run b = (b, b) := rfl
  obtain ⟨between, hRestoring, hRestored⟩ := run_restoring now f hb
  rw [hBegun] at hRestoring
  have hReading := @prepare_reading g now hSize (2 * b.events.log.length + 3) between
    g.model.catalog g.runner.position 0 (hRestored.isSteady hb)
  rw [hRestored.events] at hReading
  generalize hRest : Log.above g.runner.position b.events.log = rest at hReading ⊢
  have hLength : rest.length ≤ b.events.log.length := hRest ▸ List.length_filter_le _ _
  obtain ⟨read, hReading, hRead⟩ := hReading hOrder (by omega)
  have hPrepared : (prepare now (stageBound b.events.log.length) f .restoring).run b =
      ((stageAfter g.model.catalog g.runner.position 0 rest, g), read) := by
    have hGoing : ¬ HasRead .restoring := by intro h; cases h
    rw [stageBound, prepare_succ hGoing, run_then hRestoring]
    exact hReading
  have hAgrees : b.Agrees read := hRestored.trans hRead
  rw [tick, run_then hGet, run_then hPrepared]
  -- all of the log is read by now, and what is left depends on the fold only
  cases hFold : g.model.catalog.foldAll rest with
  | error e =>
    rw [stageAfter, ticked, checkpointed, hFold]
    exact ⟨read, rfl, hAgrees⟩
  | ok next =>
    obtain ⟨stage, hStage⟩ : ∃ stage,
        stageAfter g.model.catalog g.runner.position 0 rest = .ok stage :=
      ⟨_, by rw [stageAfter, hFold]; rfl⟩
    obtain ⟨b', hRun, hDone⟩ := run_finish now (hAgrees.isSteady hb) hStage
    rw [hAgrees.checkpoints] at hDone
    rw [hStage]
    exact ⟨b', hRun, hDone.events.trans hAgrees.events, hDone.checkpoints,
      hDone.outages.trans hAgrees.outages⟩

end Follower

end Galley
