import Mathlib.Logic.Function.Basic
import Galley.Proofs.Log.Coherence
import Galley.Proofs.Projection.Tick

/-!
# Ticks that are given up

Any number of followers share a log and the checkpoint of one name, while others append. A tick can
be given up wherever it waits for a store: at the checkpoint, at any page, and at the save, whether
or not the checkpoint was stored. The follower then goes on with what it had, or another one starts
from nothing.

Three things are kept that are not written in one go: the catalog that is shown, the position of the
follower, and the checkpoint. What holds of each at all times is that a catalog and a position
belong together: the catalog is what folding the log up to that position makes (`CameTo`). A tick
that is given up cannot part them, since it carries a pair of its own until the end. Appends do no
harm either, for they are behind every position.

Main results:

* `SoundStorage`, `SoundFollower`, `SoundPhase` — what holds of the checkpoint, of a follower, and
  of a tick on its way.
* `SoundPhase.work` — a turn of a follower keeps all three.
* `SoundWorld.step` — so does every turn, and no follower goes back.
* `inStep_run` — what holds after any turns, and what a whole tick then makes of it.
-/

namespace Galley.Projection

-- ---------------------------------------------------------------------------
-- Turns
-- ---------------------------------------------------------------------------

/-- How far a follower has got with a tick: none is under way, it waits for a stage, or the
checkpoint has been stored and the follower has not heard of it yet. -/
inductive Phase where
  | idle
  | waiting (stage : TickStage)
  | stored (catalog : Catalog) (position folded : Nat)

/-- The phase before a stage. -/
def Phase.before : TickStage → Phase
  | .done _ => .idle
  | stage => .waiting stage

/-- A follower, and how far it has got. -/
structure Member where
  follower : Follower
  phase : Phase

/-- A new follower with a read model of its own. -/
def Member.new (name : String) (batchSize : Nat) : Member := ⟨⟨.new name batchSize, .empty⟩, .idle⟩

/-- What a follower does once its checkpoint is stored. -/
def settle (f : Follower) (catalog : Catalog) (position folded : Nat) :
    Operation (Follower × TickStage) := do
  Operation.count (.folded f.runner.name) folded
  modify fun b => { b with tally := b.tally.set (.position f.runner.name) position }
  return (f.advanceTo catalog position, .done ⟨folded, position⟩)

/-- The last stage of a tick is two turns: the checkpoint is stored, and the follower hears of
it. -/
theorem step_saving (now : Instant) (f : Follower) (catalog : Catalog) (position folded : Nat) :
    Follower.step now f (.saving catalog position folded) =
      Operation.saveCheckpoint (f.checkpoint now catalog position) >>= fun _ =>
        settle f catalog position folded := by
  rfl

/-- What a follower does at its turn. -/
def Phase.work (now : Instant) (f : Follower) : Phase → Operation (Follower × Phase)
  | .idle => return (f, .idle)
  | .waiting (.saving catalog position folded) => do
    Operation.saveCheckpoint (f.checkpoint now catalog position)
    return (f, .stored catalog position folded)
  | .waiting stage => do
    let (f, stage) ← Follower.step now f stage
    return (f, .before stage)
  | .stored catalog position folded => do
    let (f, stage) ← settle f catalog position folded
    return (f, .before stage)

/-- Storage, and all followers. -/
structure World where
  backend : Backend
  member : Nat → Member

/-- A turn: someone appends, or a follower begins a tick, takes it one turn further, or gives it
up. -/
inductive Turn where
  | append (a : EventStore.Attempt)
  | begin (i : Nat)
  | advance (i : Nat) (now : Instant)
  | abandon (i : Nat)

namespace World

/-- The log so far. -/
abbrev log (w : World) : List StoredEvent := w.backend.events.log

/-- Where a follower is. -/
abbrev position (w : World) (i : Nat) : Nat := (w.member i).follower.runner.position

/-- The world before any turn: nothing is stored, and all followers are new. -/
def initial (name : String) (sizes : Nat → Nat) : World := ⟨.empty, fun i => .new name (sizes i)⟩

/-- The world with another phase of a follower. -/
def withPhase (w : World) (i : Nat) (phase : Phase) : World :=
  { w with member := Function.update w.member i { w.member i with phase := phase } }

/-- A follower takes its tick one turn further. A tick that fails is over. -/
def advance (w : World) (i : Nat) (now : Instant) : World :=
  match ((w.member i).phase.work now (w.member i).follower).run w.backend with
  | (.ok (f, phase), b) => ⟨b, Function.update w.member i ⟨f, phase⟩⟩
  | (.error _, b) => { w with backend := b }.withPhase i .idle

/-- A turn. A follower that is in the middle of a tick does not begin another. -/
def step (w : World) : Turn → World
  | .append a =>
    { w with backend := ((Operation.append a.now a.id a.expected a.batch).run w.backend).2 }
  | .begin i =>
    match (w.member i).phase with
    | .idle => w.withPhase i (.waiting .restoring)
    | _ => w
  | .advance i now => w.advance i now
  | .abandon i => w.withPhase i .idle

/-- The world after turns that come one after another. -/
def run (w : World) (turns : List Turn) : World := turns.foldl step w

end World

-- ---------------------------------------------------------------------------
-- Catalogs and positions that belong together
-- ---------------------------------------------------------------------------

/-- Folding a log comes to a position with a catalog. -/
structure CameTo (log : List StoredEvent) (position : Nat) (catalog : Catalog) : Prop where
  within : position ≤ log.length
  folded : Catalog.empty.foldAll (Log.upTo position log) = .ok catalog

variable {log : List StoredEvent} {position : Nat} {catalog next : Catalog}

theorem cameTo_start : CameTo [] 0 .empty := ⟨Nat.le_refl _, rfl⟩

/-- What is appended is behind every position. -/
theorem CameTo.append (h : CameTo log position catalog) {more : List StoredEvent}
    (hMore : ∀ e ∈ more, log.length < e.sequence) : CameTo (log ++ more) position catalog where
  within := by
    rw [List.length_append]
    exact Nat.le_trans h.within (Nat.le_add_right _ _)
  folded := by
    rw [Log.upTo_append fun e he => Nat.lt_of_le_of_lt h.within (hMore e he)]
    exact h.folded

theorem CameTo.isOrdered (h : CameTo log position catalog) : catalog.IsOrdered :=
  Catalog.isOrdered_empty.foldAll h.folded

/-- Folding a page comes to the last event of the page. -/
theorem CameTo.page {s : EventStore} (hs : s.Coherent) (h : CameTo s.log position catalog)
    {page rest : List StoredEvent} {last : StoredEvent}
    (hPage : Log.above position s.log = page ++ rest) (hLast : page.getLast? = some last)
    (hFold : catalog.foldAll page = .ok next) :
    position ≤ last.sequence ∧ CameTo s.log last.sequence next := by
  have hOrder := Log.inOrder_of_coherent hs
  have hMem : last ∈ Log.above position s.log := by
    rw [hPage]
    exact List.mem_append_left _ (List.mem_of_getLast? hLast)
  obtain ⟨hLog, hAbove⟩ := List.mem_filter.mp hMem
  refine ⟨Nat.le_of_lt (of_decide_eq_true hAbove), ?_, ?_⟩
  · have hSequence := List.mem_map_of_mem (f := StoredEvent.sequence) hLog
    rw [hs.sequences, List.mem_range'_1] at hSequence
    omega
  · rw [(hOrder.page hPage hLast).1]
    exact Catalog.foldAll_append_ok.mpr ⟨catalog, h.folded, hFold⟩

/-- Folding what is left comes to the end. -/
theorem CameTo.rest (hOrder : Log.InOrder log) (h : CameTo log position catalog)
    (hAll : Catalog.empty.foldAll log = .ok next) :
    catalog.foldAll (Log.above position log) = .ok next := by
  -- the whole log is what has been read and then what is left
  rw [← Log.upTo_append_above hOrder position] at hAll
  obtain ⟨between, hBetween, hRest⟩ := Catalog.foldAll_append_ok.mp hAll
  cases h.folded.symm.trans hBetween
  exact hRest

-- ---------------------------------------------------------------------------
-- What holds at all times
-- ---------------------------------------------------------------------------

/-- Storage in which the checkpoint of a name, if there is one, holds a position and the listing of
the catalog that belongs to it. -/
structure SoundStorage (name : String) (b : Backend) : Prop where
  steady : b.IsSteady
  coherent : b.events.Coherent
  checkpoint : ∀ c, b.checkpoints.load name = some c →
    ∃ catalog : Catalog, c.state = catalog.toJson ∧ CameTo b.events.log c.position catalog

/-- A follower whose position and catalog belong together. -/
structure SoundFollower (name : String) (log : List StoredEvent) (f : Follower) : Prop where
  name_eq : f.runner.name = name
  size : 1 ≤ f.runner.batchSize
  fresh : f.runner.restored = false → f.runner.position = 0
  halted : f.model.halted = none
  cameTo : CameTo log f.runner.position f.model.catalog

/-- A tick on its way, whose position and catalog belong together and are not behind those of the
follower. -/
inductive SoundPhase (log : List StoredEvent) (f : Follower) : Phase → Prop
  | idle : SoundPhase log f .idle
  | restoring : SoundPhase log f (.waiting .restoring)
  | reading {catalog : Catalog} {position folded : Nat} (hRestored : f.runner.restored = true)
      (hOn : f.runner.position ≤ position) (hCame : CameTo log position catalog) :
      SoundPhase log f (.waiting (.reading catalog position folded))
  | saving {catalog : Catalog} {position folded : Nat} (hRestored : f.runner.restored = true)
      (hOn : f.runner.position ≤ position) (hCame : CameTo log position catalog) :
      SoundPhase log f (.waiting (.saving catalog position folded))
  | stored {catalog : Catalog} {position folded : Nat} (hRestored : f.runner.restored = true)
      (hOn : f.runner.position ≤ position) (hCame : CameTo log position catalog) :
      SoundPhase log f (.stored catalog position folded)

/-- A follower and its tick, sound both. -/
structure SoundMember (name : String) (log : List StoredEvent) (m : Member) : Prop where
  follower : SoundFollower name log m.follower
  phase : SoundPhase log m.follower m.phase

/-- Positions and catalogs belong together everywhere. -/
structure SoundWorld (name : String) (w : World) : Prop where
  storage : SoundStorage name w.backend
  member : ∀ i, SoundMember name w.log (w.member i)

variable {name : String} {f g : Follower} {phase : Phase} {b b' : Backend} {w : World}

/-- Storage stays sound whatever is counted. -/
theorem SoundStorage.agrees (h : SoundStorage name b) (hAgrees : b.Agrees b') :
    SoundStorage name b' where
  steady := hAgrees.isSteady h.steady
  coherent := by
    rw [hAgrees.events]
    exact h.coherent
  checkpoint := by
    rw [hAgrees.events, hAgrees.checkpoints]
    exact h.checkpoint

/-- A checkpoint that is stored must hold a catalog that belongs to its position. -/
theorem SoundStorage.save (h : SoundStorage name b) {c : Checkpoint} {catalog : Catalog}
    (hState : c.state = catalog.toJson) (hCame : CameTo b.events.log c.position catalog) :
    SoundStorage name { b with checkpoints := b.checkpoints.save c } where
  steady := h.steady
  coherent := h.coherent
  checkpoint := by
    intro held hHeld
    rw [CheckpointStore.load_save] at hHeld
    split at hHeld
    · cases hHeld
      exact ⟨catalog, hState, hCame⟩
    · exact h.checkpoint held hHeld

/-- A follower that is set to what its log has come to at a position is sound. -/
theorem SoundFollower.restored (h : SoundFollower name log f)
    (hCame : CameTo log position catalog) :
    SoundFollower name log
      { runner := { f.runner with position := position, restored := true }
        model := { f.model with catalog := catalog } } :=
  ⟨h.name_eq, h.size, fun hFresh => Bool.noConfusion hFresh, h.halted, hCame⟩

/-- A follower can begin a tick, and it does so at a position and with a catalog that belong
together. -/
theorem SoundFollower.begun (hStorage : SoundStorage name b)
    (h : SoundFollower name b.events.log f) :
    ∃ g, f.begun b = .ok g ∧ SoundFollower name b.events.log g ∧ g.runner.restored = true ∧
      f.runner.position ≤ g.runner.position := by
  rw [Follower.begun]
  by_cases hRestored : f.runner.restored = true
  · rw [if_pos hRestored]
    exact ⟨f, rfl, h, hRestored, Nat.le_refl _⟩
  rw [if_neg hRestored, h.name_eq]
  -- the first tick of a follower, which has not got anywhere yet
  have hStart : f.runner.position = 0 := h.fresh (Bool.not_eq_true _ ▸ hRestored)
  cases hHeld : b.checkpoints.load name with
  | none => exact ⟨_, rfl, h.restored h.cameTo, rfl, Nat.le_refl _⟩
  | some c =>
    obtain ⟨catalog, hState, hCame⟩ := hStorage.checkpoint c hHeld
    have hRead : Catalog.ofJson c.state = .ok catalog := by
      rw [hState]
      exact hCame.isOrdered.ofJson_toJson
    refine ⟨_, f.restore_some hRead, h.restored hCame, rfl, ?_⟩
    rw [hStart]
    exact Nat.zero_le _

-- ---------------------------------------------------------------------------
-- One turn of a follower
-- ---------------------------------------------------------------------------

/-- What comes of the turn of a follower is sound, and the follower has not gone back. -/
structure Works (name : String) (b : Backend) (f : Follower)
    (outcome : Except Failure (Follower × Phase) × Backend) : Prop where
  events : outcome.2.events = b.events
  storage : SoundStorage name outcome.2
  follower : ∀ g next, outcome.1 = .ok (g, next) → SoundFollower name b.events.log g ∧
    SoundPhase b.events.log g next ∧ f.runner.position ≤ g.runner.position

/-- The phase after a page. -/
theorem soundPhase_afterPage (hStorage : SoundStorage name b)
    (hRestored : f.runner.restored = true)
    (hOn : f.runner.position ≤ position) (hCame : CameTo b.events.log position catalog)
    {folded : Nat} {stage : TickStage}
    (hStage : f.afterPage catalog position folded
      (b.events.loadSince position f.runner.batchSize) = .ok stage) :
    SoundPhase b.events.log f (.before stage) := by
  rw [Log.loadSince_eq (Log.inOrder_of_coherent hStorage.coherent)] at hStage
  have hParts := (List.take_append_drop f.runner.batchSize
    (Log.above position b.events.log)).symm
  rw [Follower.afterPage] at hStage
  split at hStage
  · split at hStage
    · cases hStage
      exact .idle
    · cases hStage
      exact .saving hRestored hOn hCame
  · next last hLast =>
    obtain ⟨next, hFold, hStage⟩ := bind_eq_ok.mp hStage
    obtain ⟨hFurther, hNext⟩ := hCame.page hStorage.coherent hParts hLast hFold
    split at hStage
    · cases hStage
      exact .saving hRestored (Nat.le_trans hOn hFurther) hNext
    · cases hStage
      exact .reading hRestored (Nat.le_trans hOn hFurther) hNext

/-- A stage is told by the phase that comes before the next one. -/
theorem run_before {op : Operation (Follower × TickStage)}
    {result : Except Failure (Follower × TickStage)} (h : op.run b = (result, b')) :
    (op >>= fun (f, stage) => return (f, Phase.before stage)).run b =
      (result.map fun (f, stage) => (f, Phase.before stage), b') := by
  rw [Operation.run_bind, h]
  cases result <;> rfl

/-- **A turn of a follower keeps positions and catalogs together.** -/
theorem SoundPhase.work (hStorage : SoundStorage name b)
    (hFollower : SoundFollower name b.events.log f) (h : SoundPhase b.events.log f phase)
    (now : Instant) : Works name b f ((phase.work now f).run b) := by
  cases h with
  | idle =>
    refine ⟨rfl, hStorage, fun g next hDone => ?_⟩
    cases hDone
    exact ⟨hFollower, .idle, Nat.le_refl _⟩
  | restoring =>
    obtain ⟨g, hBegun, hSound, hRestored, hOn⟩ := hFollower.begun hStorage
    obtain ⟨b', hRun, hAgrees⟩ := Follower.run_restoring now f hStorage.steady
    have hWork : ((Phase.waiting .restoring).work now f).run b = _ := run_before hRun
    rw [hBegun] at hWork
    rw [hWork]
    refine ⟨hAgrees.events, hStorage.agrees hAgrees, fun f' next hDone => ?_⟩
    cases hDone
    exact ⟨hSound, .reading hRestored (Nat.le_refl _) hSound.cameTo, hOn⟩
  | @reading catalog position folded hRestored hOn hCame =>
    obtain ⟨b', hRun, hAgrees⟩ :=
      Follower.run_reading now f hStorage.steady catalog position folded
    have hWork : ((Phase.waiting (.reading catalog position folded)).work now f).run b = _ :=
      run_before hRun
    rw [hWork]
    refine ⟨hAgrees.events, hStorage.agrees hAgrees, fun g next hDone => ?_⟩
    obtain ⟨_, hPage, hNext⟩ := map_eq_ok.mp hDone
    obtain ⟨stage, hStage, rfl⟩ := map_eq_ok.mp hPage
    cases hNext
    exact ⟨hFollower, soundPhase_afterPage hStorage hRestored hOn hCame hStage, Nat.le_refl _⟩
  -- the checkpoint that is saved holds what the log has come to at its position
  | @saving catalog position folded hRestored hOn hCame =>
    have hSave := Operation.run_saveCheckpoint hStorage.steady (f.checkpoint now catalog position)
    rw [Phase.work, Operation.run_bind, hSave]
    refine ⟨rfl, hStorage.save rfl hCame, fun g next hDone => ?_⟩
    cases hDone
    exact ⟨hFollower, .stored hRestored hOn hCame, Nat.le_refl _⟩
  -- only now does the follower itself move
  | @stored catalog position folded hRestored hOn hCame =>
    refine ⟨rfl, hStorage.agrees ⟨rfl, rfl, rfl⟩, fun g next hDone => ?_⟩
    cases hDone
    refine ⟨⟨hFollower.name_eq, hFollower.size, fun hFresh => ?_, hFollower.halted, hCame⟩, .idle,
      hOn⟩
    exact absurd (hRestored.symm.trans hFresh) Bool.noConfusion

-- ---------------------------------------------------------------------------
-- Turns of the world
-- ---------------------------------------------------------------------------

/-- The world is sound at the start. -/
theorem soundWorld_initial (name : String) (sizes : Nat → Nat) :
    SoundWorld name (.initial name sizes) where
  storage := ⟨fun _ => rfl, EventStore.coherent_empty, fun _ hHeld => nomatch hHeld⟩
  member := fun _ => ⟨⟨rfl, Nat.le_max_right _ _, fun _ => rfl, rfl, cameTo_start⟩, .idle⟩

/-- A member stays sound as long as its log only goes on. -/
theorem SoundMember.mono {log log' : List StoredEvent} {m : Member} (h : SoundMember name log m)
    (hMono : ∀ {position catalog}, CameTo log position catalog → CameTo log' position catalog) :
    SoundMember name log' m where
  follower := { h.follower with cameTo := hMono h.follower.cameTo }
  phase := by
    obtain ⟨f, phase⟩ := m
    cases h.phase with
    | idle => exact .idle
    | restoring => exact .restoring
    | reading hRestored hOn hCame => exact .reading hRestored hOn (hMono hCame)
    | saving hRestored hOn hCame => exact .saving hRestored hOn (hMono hCame)
    | stored hRestored hOn hCame => exact .stored hRestored hOn (hMono hCame)

/-- A turn of one member that leaves storage sound leaves the world so. -/
theorem SoundWorld.update (h : SoundWorld name w) (hStorage : SoundStorage name b)
    (hEvents : b.events = w.backend.events) (i : Nat) {m : Member}
    (hMember : SoundMember name w.log m) : SoundWorld name ⟨b, Function.update w.member i m⟩ where
  storage := hStorage
  member := by
    rw [World.log, hEvents]
    exact (Function.forall_update_iff w.member fun _ => SoundMember name w.log).mpr
      ⟨hMember, fun j _ => h.member j⟩

/-- What is appended parts nothing that belongs together. -/
theorem SoundWorld.append (h : SoundWorld name w) (a : EventStore.Attempt) :
    SoundWorld name (w.step (.append a)) := by
  obtain ⟨more, hLog, hMore⟩ := h.storage.coherent.attempt_log a
  obtain ⟨b', hRun, hAgrees⟩ :=
    Operation.run_append h.storage.steady a.now a.id a.expected a.batch
  have hEvents : b'.events = (w.backend.events.attempt a).2 := hAgrees.events
  -- the one fact about the new log that everything else rests on
  have hMono {position : Nat} {catalog : Catalog} (hCame : CameTo w.log position catalog) :
      CameTo b'.events.log position catalog := by
    rw [hEvents, hLog]
    exact hCame.append hMore
  rw [World.step, hRun]
  refine ⟨⟨hAgrees.isSteady h.storage.steady, ?_, fun c hHeld => ?_⟩,
    fun i => (h.member i).mono hMono⟩
  · rw [hEvents]
    exact h.storage.coherent.attempt a
  · rw [hAgrees.checkpoints] at hHeld
    obtain ⟨catalog, hState, hCame⟩ := h.storage.checkpoint c hHeld
    exact ⟨catalog, hState, hMono hCame⟩

/-- If one member does not fall back, none does. -/
theorem position_update (w : World) (b : Backend) (i : Nat) {m : Member}
    (hOn : w.position i ≤ m.follower.runner.position) (j : Nat) :
    w.position j ≤ (⟨b, Function.update w.member i m⟩ : World).position j := by
  show w.position j ≤ (Function.update w.member i m j).follower.runner.position
  rw [Function.update_apply]
  split
  · next hj => rwa [hj]
  · exact Nat.le_refl _

/-- **A turn keeps positions and catalogs together**, and no follower goes back. -/
theorem SoundWorld.step (h : SoundWorld name w) (t : Turn) :
    SoundWorld name (w.step t) ∧ ∀ j, w.position j ≤ (w.step t).position j := by
  have hPhase (i : Nat) {phase : Phase} (hNext : SoundPhase w.log (w.member i).follower phase) :
      SoundWorld name (w.withPhase i phase) ∧
        ∀ j, w.position j ≤ (w.withPhase i phase).position j :=
    ⟨h.update h.storage rfl i ⟨(h.member i).follower, hNext⟩,
      position_update w _ i (Nat.le_refl _)⟩
  cases t with
  | append a => exact ⟨h.append a, fun _ => Nat.le_refl _⟩
  | begin i =>
    rw [World.step]
    split
    · exact hPhase i .restoring
    · exact ⟨h, fun _ => Nat.le_refl _⟩
  | abandon i => exact hPhase i .idle
  -- whatever a turn leads to, a follower either stays or moves on
  | advance i now =>
    have hWorks := (h.member i).phase.work h.storage (h.member i).follower now
    rw [World.step, World.advance]
    rcases hRun : ((w.member i).phase.work now (w.member i).follower).run w.backend with
      ⟨e | ⟨g, next⟩, b⟩
    · rw [hRun] at hWorks
      exact ⟨h.update hWorks.storage hWorks.events i ⟨(h.member i).follower, .idle⟩,
        position_update w b i (Nat.le_refl _)⟩
    · rw [hRun] at hWorks
      obtain ⟨hFollower, hNext, hOn⟩ := hWorks.follower g next rfl
      exact ⟨h.update hWorks.storage hWorks.events i ⟨hFollower, hNext⟩,
        position_update w b i hOn⟩

-- ---------------------------------------------------------------------------
-- Runs
-- ---------------------------------------------------------------------------

/-- **Every run** keeps the world sound, and no position falls back. -/
theorem SoundWorld.run (h : SoundWorld name w) (turns : List Turn) :
    SoundWorld name (w.run turns) ∧ ∀ j, w.position j ≤ (w.run turns).position j := by
  induction turns generalizing w with
  | nil => exact ⟨h, fun _ => Nat.le_refl _⟩
  | cons t turns ih =>
    obtain ⟨hStep, hOn⟩ := h.step t
    obtain ⟨hRun, hFurther⟩ := ih hStep
    exact ⟨hRun, fun j => Nat.le_trans (hOn j) (hFurther j)⟩

/-- The checkpoint of a name, if there is one, and the catalog of each follower are what folding
the log up to the position that belongs to them makes. The checkpoint holds the listing. -/
structure InStep (name : String) (w : World) : Prop where
  checkpoint : ∀ c, w.backend.checkpoints.load name = some c →
    ∃ catalog : Catalog, Catalog.empty.foldAll (Log.upTo c.position w.log) = .ok catalog ∧
      c.state = catalog.toJson
  model : ∀ i, Catalog.empty.foldAll (Log.upTo (w.position i) w.log) =
    .ok (w.member i).follower.model.catalog

/-- If the whole log can be folded, a whole tick of any follower succeeds and makes the same of
it. -/
def CatchesUp (w : World) : Prop :=
  ∀ (i : Nat) (now : Instant) (catalog : Catalog), Catalog.empty.foldAll w.log = .ok catalog →
    ∃ outcome f b, (Follower.tick now (w.member i).follower).run w.backend = ((.ok outcome, f), b) ∧
      f.model = ⟨catalog, none⟩

theorem SoundWorld.inStep (h : SoundWorld name w) : InStep name w where
  checkpoint := by
    intro c hHeld
    obtain ⟨catalog, hState, hCame⟩ := h.storage.checkpoint c hHeld
    exact ⟨catalog, hCame.folded, hState⟩
  model := fun i => (h.member i).follower.cameTo.folded

/-- From a sound world a full tick catches up. -/
theorem SoundWorld.catchesUp (h : SoundWorld name w) : CatchesUp w := by
  intro i now catalog hAll
  have hOrder := Log.inOrder_of_coherent h.storage.coherent
  obtain ⟨g, hBegun, hSound, -, -⟩ := (h.member i).follower.begun h.storage
  obtain ⟨b, hTick, -⟩ := Follower.tick_quiet now h.storage.steady hOrder hSound.size hBegun
  rw [Follower.ticked, hSound.cameTo.rest hOrder hAll] at hTick
  refine ⟨_, _, b, hTick, ?_⟩
  show (⟨catalog, g.model.halted⟩ : ReadModel) = ⟨catalog, none⟩
  rw [hSound.halted]

/-- **Whatever becomes of the ticks**, after any turns the checkpoint and the catalogs are what
folding the log up to their positions makes, no follower ever goes back, and one whole tick makes of
the log what folding it once from the start does. -/
theorem inStep_run (name : String) (sizes : Nat → Nat) (turns : List Turn) :
    let w := (World.initial name sizes).run turns
    InStep name w ∧ (∀ more i, w.position i ≤ (w.run more).position i) ∧ CatchesUp w := by
  intro w
  have hSound : SoundWorld name w := ((soundWorld_initial name sizes).run turns).1
  exact ⟨hSound.inStep, fun more i => (hSound.run more).2 i, hSound.catchesUp⟩

/-- A tick is given up once its checkpoint has been stored: its follower is where it was, and
another one starts from the checkpoint. -/
example :
    let created := TemplateEvent.created "a" "" .empty default
    let w := (World.initial "list" fun _ => 10).run
      [.append ⟨default, .ofNat 1, 0, [created.toNewEvent]⟩, .begin 0, .advance 0 default,
        .advance 0 default, .advance 0 default, .abandon 0, .begin 1, .advance 1 default]
    (w.position 0, w.position 1, (w.member 1).follower.model.catalog.rows.length) = (0, 1, 1) := by
  decide +kernel

end Galley.Projection
