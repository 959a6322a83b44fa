import Galley.Proofs.Projection.Listing
import Galley.Proofs.Storage.Outage

/-!
# Ticks on a busy log

A tick reads the log page by page, and others may append between two pages. The tick then reads on
into what they have appended, so where it ends is not known when it begins. What is known is that it
has folded every event up to there, once and in order, and every event that was in the log at the
beginning; or that it has failed, and nothing has changed. This holds whatever the size of the
pages, and also when a store is out of order in the middle of the tick. If no store is, a tick fails
only because of an event that cannot be folded.

`Follower.Ends` tells how a tick goes on from a stage, with the appends of others in between, and
keeps the events that it reads. What carries the induction is that these events are just the ones
that lie between the start and the place that the reader has reached (`Log.Read`), which the appends
of others cannot change, as they come behind that place. That they do is a matter of their numbers:
a log whose last sequence is nearly the largest word has to have room for them
(`EventStore.HasRoom`).

Main results:

* `Ends.unique`, `exists_ends` — a tick goes one way, and comes to an end once nobody appends any
  more.
* `Ends.settles` — what it has folded then, and what it leaves behind.
* `Ends.hasRoom` — the sequences of the log are words then.
* `run_tick_iff` — if nobody appends at all, it is the tick of the follower.
* `anySize` — and then the size of the pages does not show.
* `tick_busy` — all of this, wherever a restored follower is.
-/

namespace Galley

/-- Storage after others have appended. -/
def Backend.appended (b : Backend) (as : List EventStore.Attempt) : Backend :=
  { b with events := b.events.attempts as }

namespace Follower

-- ---------------------------------------------------------------------------
-- Ticks that others append to
-- ---------------------------------------------------------------------------

/-- What others append while a tick is under way: the attempts that come before each of its stages.
After the list nobody appends. -/
abbrev Traffic := List (List EventStore.Attempt)

/-- How many events they bring, whether or not their appends succeed. -/
def Traffic.events : Traffic → Nat
  | [] => 0
  | as :: traffic => EventStore.offered as + Traffic.events traffic

/-- A follower that has been restored: its position and its read model. -/
def restoredAt (name : String) (batchSize position : Nat) (model : ReadModel) : Follower :=
  ⟨{ Runner.new name batchSize with position := position, restored := true }, model⟩

/-- The page that a stage reads. -/
def page (f : Follower) (s : EventStore) : TickStage → List StoredEvent
  | .reading _ position _ => s.loadSince position f.runner.batchSize
  | _ => []

/-- How a tick goes from a stage to its end while others append: the events that it folds on the
way, what comes of it, and the storage it leaves. -/
inductive Ends (now : Instant) :
    Traffic → Backend → Follower → TickStage → List StoredEvent → Ticked → Backend → Prop
  | done (traffic : Traffic) (b : Backend) (f : Follower) (outcome : TickOutcome) :
      Ends now traffic b f (.done outcome) [] (.ok outcome, f) b
  | failed {traffic : Traffic} {b b' : Backend} {f : Follower} {stage : TickStage} {e : Failure}
      (hStep : (step now f stage).run (b.appended (traffic.headD [])) = (.error e, b')) :
      Ends now traffic b f stage [] (.error e, f) b'
  | next {traffic : Traffic} {b b' b'' : Backend} {f g : Follower} {stage following : TickStage}
      {events : List StoredEvent} {result : Ticked} (hGoing : ∀ outcome, stage ≠ .done outcome)
      (hStep : (step now f stage).run (b.appended (traffic.headD [])) = (.ok (g, following), b'))
      (hRest : Ends now traffic.tail b' g following events result b'') :
      Ends now traffic b f stage
        (f.page (b.appended (traffic.headD [])).events stage ++ events) result b''

/-- The follower that has come to a position with a catalog. It shows the catalog, and nothing else
about it has changed. -/
structure HasComeTo (f f' : Follower) (catalog : Catalog) (position : Nat) : Prop where
  catalog : f'.model.catalog = catalog
  halted : f'.model.halted = f.model.halted
  position : f'.runner.position = position
  name : f'.runner.name = f.runner.name
  batchSize : f'.runner.batchSize = f.runner.batchSize
  restored : f'.runner.restored = f.runner.restored

/-- The checkpoints once a catalog has been saved at a position under a name: the state is the JSON
of all summaries, newest first, and the checkpoints of other names are as before. -/
structure Saved (now : Instant) (name : String) (catalog : Catalog) (position : Nat)
    (s s' : CheckpointStore) : Prop where
  complete : catalog.listing.Perm catalog.rows
  sorted : catalog.listing.Pairwise fun a b => ¬ b.Precedes a
  own : s'.load name = some
    ⟨name, position, Catalog.shape.encode (catalog.listing.map Summary.toData), now⟩
  others : ∀ other, other ≠ name → s'.load other = s.load other

/-- What a tick leaves behind that a follower began on storage `b` and that has folded the given
events: they are all events up to the new position, which is that of the last of them; none of those
that were in the log at the beginning is missing; the follower shows the catalog that is made of
them, and has saved it if there were any. Or the tick has failed and has changed nothing; on steady
storage it fails only because of an event behind its position that cannot be folded. -/
inductive Settles (now : Instant) (f : Follower) (b b' : Backend) (events : List StoredEvent) :
    Ticked → Prop
  | folded {f' : Follower} {position : Nat} {catalog : Catalog}
      (hEvents : events = Log.between f.runner.position position b'.events.log)
      (hReached : position = Log.reached f.runner.position events)
      (hAll : ∀ e ∈ b.events.log, f.runner.position < e.sequence → e ∈ events)
      (hCatalog : f.model.catalog.foldAll events = .ok catalog)
      (hFollower : f.HasComeTo f' catalog position)
      (hSaved : events ≠ [] →
        Saved now f.runner.name catalog position b.checkpoints b'.checkpoints)
      (hUnsaved : events = [] → b'.checkpoints = b.checkpoints) :
      Settles now f b b' events (.ok ⟨events.length, position⟩, f')
  | failed (e : Failure) (hKept : b'.checkpoints = b.checkpoints)
      (hCause : b.IsSteady → ∃ page, events ++ page <+: Log.above f.runner.position b'.events.log ∧
        f.model.catalog.foldAll (events ++ page) = .error e) :
      Settles now f b b' events (.error e, f)

-- ---------------------------------------------------------------------------
-- Stages on any storage
-- ---------------------------------------------------------------------------

variable {now : Instant} {f g : Follower} {b b₀ b' : Backend} {traffic : Traffic}
  {catalog : Catalog} {position folded : Nat} {events : List StoredEvent} {stage : TickStage}

/-- **Restoring** gives the follower the state of its checkpoint, unless it has it already, or
fails. -/
theorem run_restoring_or (now : Instant) (f : Follower) (b : Backend) :
    ∃ b', b.SameStores b' ∧
      ((∃ e, (step now f .restoring).run b = (.error e, b')) ∨
        ∃ g, f.begun b = .ok g ∧
          (step now f .restoring).run b = (.ok (g, g.firstReading), b')) := by
  rw [step, begun]
  split
  · exact ⟨b, ⟨rfl, rfl, id⟩, .inr ⟨f, rfl, rfl⟩⟩
  · obtain ⟨b', hSame, hLoad | ⟨-, e, hLoad⟩⟩ :=
      Operation.run_loadCheckpoint_or f.runner.name b
    · obtain ⟨b'', hRun, hAgrees⟩ := run_ofExcept_bind
        (f.restore (b.checkpoints.load f.runner.name)) (fun g => (g, g.firstReading)) b'
      refine ⟨b'', hSame.trans hAgrees.sameStores, ?_⟩
      rw [Operation.run_bind, hLoad]
      simp only
      rw [hRun]
      cases f.restore (b.checkpoints.load f.runner.name) with
      | error e => exact .inl ⟨e, rfl⟩
      | ok g => exact .inr ⟨g, rfl, rfl⟩
    · refine ⟨b', hSame, .inl ⟨e, ?_⟩⟩
      rw [Operation.run_bind, hLoad]

/-- **Reading** folds a page, or fails. -/
theorem run_reading_or (now : Instant) (f : Follower) (b : Backend) (catalog : Catalog)
    (position folded : Nat) :
    ∃ b', b.SameStores b' ∧
      ((∃ e, (b.IsSteady → f.afterPage catalog position folded
            (b.events.loadSince position f.runner.batchSize) = .error e) ∧
          (step now f (.reading catalog position folded)).run b = (.error e, b')) ∨
        ∃ stage, f.afterPage catalog position folded
            (b.events.loadSince position f.runner.batchSize) = .ok stage ∧
          (step now f (.reading catalog position folded)).run b = (.ok (f, stage), b')) := by
  obtain ⟨b', hSame, hPage | ⟨hUnsteady, e, hPage⟩⟩ :=
    Operation.run_loadSince_or position f.runner.batchSize b
  · obtain ⟨b'', hRun, hAgrees⟩ := run_ofExcept_bind
      (f.afterPage catalog position folded (b.events.loadSince position f.runner.batchSize))
      (fun stage => (f, stage)) b'
    refine ⟨b'', hSame.trans hAgrees.sameStores, ?_⟩
    rw [step, Operation.run_bind, hPage]
    simp only
    rw [hRun]
    cases f.afterPage catalog position folded (b.events.loadSince position f.runner.batchSize) with
    | error e => exact .inl ⟨e, fun _ => rfl, rfl⟩
    | ok stage => exact .inr ⟨stage, rfl, rfl⟩
  · refine ⟨b', hSame, .inl ⟨e, fun hb => absurd hb hUnsteady, ?_⟩⟩
    rw [step, Operation.run_bind, hPage]

/-- **Saving** stores a checkpoint and shows the new catalog, or fails and does neither. -/
theorem run_saving_or (now : Instant) (f : Follower) (b : Backend) (catalog : Catalog)
    (position folded : Nat) :
    ∃ b', b'.events = b.events ∧
      ((b'.checkpoints = b.checkpoints ∧ ¬ b.IsSteady ∧
          ∃ e, (step now f (.saving catalog position folded)).run b = (.error e, b')) ∨
        (b'.checkpoints = b.checkpoints.save (f.checkpoint now catalog position) ∧
          (step now f (.saving catalog position folded)).run b =
            (.ok (f.advanceTo catalog position, .done ⟨folded, position⟩), b'))) := by
  obtain ⟨b', hEvents, ⟨hSaved, hSave⟩ | ⟨hKept, hUnsteady, e, hSave⟩⟩ :=
    Operation.run_saveCheckpoint_or (f.checkpoint now catalog position) b
  · rw [step, Operation.run_bind, hSave]
    refine ⟨_, ?_, .inr ⟨?_, rfl⟩⟩
    · exact hEvents
    · exact hSaved
  · refine ⟨b', hEvents, .inl ⟨hKept, hUnsteady, e, ?_⟩⟩
    rw [step, Operation.run_bind, hSave]

/-- A follower that begins a tick takes over a catalog and a position at most. -/
theorem begun_keeps (h : f.begun b = .ok g) :
    g.model.halted = f.model.halted ∧ g.runner.batchSize = f.runner.batchSize := by
  rw [begun] at h
  split at h
  · cases h
    exact ⟨rfl, rfl⟩
  · rw [restore.eq_def] at h
    split at h
    · cases h
      exact ⟨rfl, rfl⟩
    · split at h
      · cases h
      · cases h
        exact ⟨rfl, rfl⟩

/-- **A stage** fails or goes on. It touches neither the log nor the mark of the read model nor the
size of pages. -/
theorem run_step_or (now : Instant) (f : Follower) (stage : TickStage) (b : Backend) :
    ∃ b', b'.events = b.events ∧
      ((∃ e, (step now f stage).run b = (.error e, b')) ∨
        ∃ g next, g.model.halted = f.model.halted ∧ g.runner.batchSize = f.runner.batchSize ∧
          (step now f stage).run b = (.ok (g, next), b')) := by
  cases stage with
  | restoring =>
    obtain ⟨b', hSame, ⟨e, hStep⟩ | ⟨g, hBegun, hStep⟩⟩ := run_restoring_or now f b
    · exact ⟨b', hSame.events, .inl ⟨e, hStep⟩⟩
    · obtain ⟨hHalted, hSize⟩ := begun_keeps hBegun
      exact ⟨b', hSame.events, .inr ⟨g, _, hHalted, hSize, hStep⟩⟩
  | reading catalog position folded =>
    obtain ⟨b', hSame, ⟨e, -, hStep⟩ | ⟨next, -, hStep⟩⟩ :=
      run_reading_or now f b catalog position folded
    · exact ⟨b', hSame.events, .inl ⟨e, hStep⟩⟩
    · exact ⟨b', hSame.events, .inr ⟨f, next, rfl, rfl, hStep⟩⟩
  | saving catalog position folded =>
    obtain ⟨b', hEvents, ⟨-, -, e, hStep⟩ | ⟨-, hStep⟩⟩ :=
      run_saving_or now f b catalog position folded
    · exact ⟨b', hEvents, .inl ⟨e, hStep⟩⟩
    · exact ⟨b', hEvents,
        .inr ⟨f.advanceTo catalog position, .done ⟨folded, position⟩, rfl, rfl, hStep⟩⟩
  | done outcome => exact ⟨b, rfl, .inr ⟨f, .done outcome, rfl, rfl, rfl⟩⟩

/-- A restored follower begins to read at once. -/
theorem run_restored (now : Instant) (hRestored : f.runner.restored = true) (b : Backend) :
    (step now f .restoring).run b = (.ok (f, f.firstReading), b) := by
  rw [step, if_pos hRestored]
  rfl

/-- **There is one way for a tick to go.** -/
theorem Ends.unique {events' : List StoredEvent} {result result' : Ticked} {b'' : Backend}
    (h : Ends now traffic b f stage events result b')
    (h' : Ends now traffic b f stage events' result' b'') :
    events = events' ∧ result = result' ∧ b' = b'' := by
  induction h generalizing events' result' b'' with
  | done =>
    cases h' with
    | done => exact ⟨rfl, rfl, rfl⟩
    | failed hStep => cases hStep
    | next hGoing => exact absurd rfl (hGoing _)
  | failed hStep =>
    cases h' with
    | done => cases hStep
    | failed hStep' =>
      cases hStep.symm.trans hStep'
      exact ⟨rfl, rfl, rfl⟩
    | next _ hStep' => cases hStep.symm.trans hStep'
  | next hGoing hStep _ ih =>
    cases h' with
    | done => exact absurd rfl (hGoing _)
    | failed hStep' => cases hStep.symm.trans hStep'
    | next _ hStep' hRest' =>
      cases hStep.symm.trans hStep'
      obtain ⟨rfl, hSame⟩ := ih hRest'
      exact ⟨rfl, hSame⟩

/-- A follower that goes to a position with a catalog has come there. -/
theorem hasComeTo_advanceTo (f : Follower) (catalog : Catalog) (position : Nat) :
    f.HasComeTo (f.advanceTo catalog position) catalog position :=
  ⟨rfl, rfl, rfl, rfl, rfl, rfl⟩

/-- Its checkpoint is saved under its name. -/
theorem saved_save (now : Instant) (f : Follower) (catalog : Catalog) (position : Nat)
    (s : CheckpointStore) :
    Saved now f.runner.name catalog position s (s.save (f.checkpoint now catalog position)) where
  complete := List.mergeSort_perm _ _
  sorted := Summary.pairwise_sort _
  own := (CheckpointStore.load_save _ _ _).trans (if_pos rfl)
  others := fun _ hOther => (CheckpointStore.load_save _ _ _).trans (if_neg hOther)

-- ---------------------------------------------------------------------------
-- Room for sequences
-- ---------------------------------------------------------------------------

/-- What others append before a stage takes its part of the room. -/
theorem hasRoom_appended (hRoom : b.events.HasRoom traffic.events) :
    (b.appended (traffic.headD [])).events.HasRoom (Traffic.events traffic.tail) := by
  cases traffic with
  | nil => exact hRoom
  | cons as traffic => exact EventStore.HasRoom.attempts as hRoom

/-- **A tick takes up no room**: all of it is left to what others append. -/
theorem Ends.hasRoom {result : Ticked} (h : Ends now traffic b f stage events result b')
    (hRoom : b.events.HasRoom traffic.events) : b'.events.HasRoom 0 := by
  induction h with
  | done => exact hRoom.mono (Nat.zero_le _)
  | @failed traffic b b' f stage e hStep =>
    obtain ⟨_, hEvents, ⟨_, hRun⟩ | ⟨_, _, -, -, hRun⟩⟩ :=
      run_step_or now f stage (b.appended (traffic.headD []))
    · cases hStep.symm.trans hRun
      rw [hEvents]
      exact (hasRoom_appended hRoom).mono (Nat.zero_le _)
    · cases hStep.symm.trans hRun
  | @next traffic b b' _ f g stage following _ _ _ hStep _ ih =>
    obtain ⟨_, hEvents, ⟨_, hRun⟩ | ⟨_, _, -, -, hRun⟩⟩ :=
      run_step_or now f stage (b.appended (traffic.headD []))
    · cases hStep.symm.trans hRun
    · cases hStep.symm.trans hRun
      exact ih (by rw [hEvents]; exact hasRoom_appended hRoom)

-- ---------------------------------------------------------------------------
-- Coming to an end
-- ---------------------------------------------------------------------------

/-- A log in order is in order after what others append, and goes on from where it was. -/
theorem appended_log (hOrder : Log.InOrder b.events.log) (as : List EventStore.Attempt) :
    Log.InOrder (b.appended as).events.log ∧ b.events.log <+: (b.appended as).events.log := by
  obtain ⟨more, hLog, hMore⟩ := hOrder.attempts as
  rw [← hLog] at hMore
  exact ⟨hMore, more, hLog.symm⟩

/-- A tick comes to an end. -/
def Stops (now : Instant) (traffic : Traffic) (b : Backend) (f : Follower) (stage : TickStage) :
    Prop :=
  ∃ events result b', Ends now traffic b f stage events result b'

/-- A tick that has read what there was comes to an end. -/
theorem stops_of_hasRead (h : HasRead stage) (now : Instant) (traffic : Traffic) (b : Backend)
    (f : Follower) : Stops now traffic b f stage := by
  cases h with
  | done outcome => exact ⟨_, _, _, .done traffic b f outcome⟩
  | saving catalog position folded =>
    obtain ⟨b', -, ⟨-, -, e, hStep⟩ | ⟨-, hStep⟩⟩ :=
      run_saving_or now f (b.appended (traffic.headD [])) catalog position folded
    · exact ⟨_, _, _, .failed hStep⟩
    · exact ⟨_, _, _, .next (by simp) hStep (.done _ _ _ _)⟩

/-- A tick comes to an end if it does so from behind the page that it reads next. -/
theorem stops_of_page (hSize : 1 ≤ f.runner.batchSize)
    (hOrder : Log.InOrder (b.appended (traffic.headD [])).events.log)
    (hBehind : ∀ (b' : Backend) (page more : List StoredEvent) (last : StoredEvent)
      (next : Catalog), b'.events = (b.appended (traffic.headD [])).events →
        Log.above position b'.events.log = page ++ more → page.getLast? = some last →
          Stops now traffic.tail b' f (.reading next last.sequence (folded + page.length))) :
    Stops now traffic b f (.reading catalog position folded) := by
  obtain ⟨b', hSame, ⟨e, -, hStep⟩ | ⟨stage, hStage, hStep⟩⟩ :=
    run_reading_or now f (b.appended (traffic.headD [])) catalog position folded
  · exact ⟨_, _, _, .failed hStep⟩
  · rw [Log.loadSince_eq hOrder] at hStage
    have hStops : Stops now traffic.tail b' f stage := by
      rcases afterPage_eq hSize catalog position folded
          (Log.above position (b.appended (traffic.headD [])).events.log) with
        hEnd | ⟨page, more, last, next, hParts, hLast, -, hNext⟩
      · exact stops_of_hasRead (hasRead_stageAfter (hEnd.symm.trans hStage)) now _ _ _
      · cases hNext.symm.trans hStage
        rw [← hSame.events] at hParts
        exact hBehind b' page more last next hSame.events hParts hLast
    obtain ⟨events, result, b'', hRest⟩ := hStops
    exact ⟨_, _, _, .next (by simp) hStep hRest⟩

/-- A tick that reads a log comes to an end, whatever others append in the meantime. -/
theorem stops_reading (now : Instant) (hSize : 1 ≤ f.runner.batchSize) (traffic : Traffic) :
    ∀ {b : Backend} (catalog : Catalog) (position folded : Nat), Log.InOrder b.events.log →
      Stops now traffic b f (.reading catalog position folded) := by
  induction traffic with
  | nil =>
    -- nobody appends any more, so every page leaves less of the log
    intro b catalog position folded hOrder
    generalize hLeft : (Log.above position b.events.log).length = left
    induction left using Nat.strongRecOn generalizing b catalog position folded with
    | ind left ih =>
      refine stops_of_page hSize hOrder fun b' page more last next hEvents hParts hLast => ?_
      have hEvents : b'.events = b.events := hEvents
      have hOrder' : Log.InOrder b'.events.log := by rwa [hEvents]
      have hSome : 0 < page.length := List.length_pos_of_mem (List.mem_of_getLast? hLast)
      have hLength := congrArg List.length hParts
      rw [hEvents, hLeft, List.length_append] at hLength
      refine ih more.length (by omega) next last.sequence _ hOrder' ?_
      rw [(hOrder'.page hParts hLast).2]
  | cons as traffic ih =>
    intro b catalog position folded hOrder
    obtain ⟨hOrder', -⟩ := appended_log hOrder as
    refine stops_of_page hSize hOrder' fun b' page more last next hEvents _ _ => ?_
    exact ih _ _ _ (by rw [hEvents]; exact hOrder')

/-- **A tick comes to an end** once nobody appends any more. -/
theorem exists_ends (now : Instant) (hRestored : f.runner.restored = true)
    (hSize : 1 ≤ f.runner.batchSize) (hOrder : Log.InOrder b.events.log) (traffic : Traffic) :
    Stops now traffic b f .restoring := by
  obtain ⟨hOrder', -⟩ := appended_log hOrder (traffic.headD [])
  obtain ⟨events, result, b', hRest⟩ := stops_reading now hSize traffic.tail f.model.catalog
    f.runner.position 0 hOrder'
  exact ⟨_, _, _, .next (by simp) (run_restored now hRestored _) hRest⟩

-- ---------------------------------------------------------------------------
-- What has been folded
-- ---------------------------------------------------------------------------

/-- How far a tick has come that has read the given events of a log: its catalog and its position
are those of the events. Once it has seen the end of the log, none of the events is missing that
were there early on. -/
inductive Progress (f : Follower) (early log events : List StoredEvent) : TickStage → Prop
  | reading {catalog : Catalog} {position : Nat}
      (hCatalog : f.model.catalog.foldAll events = .ok catalog)
      (hRead : Log.Read f.runner.position position events log) :
      Progress f early log events (.reading catalog position events.length)
  | saving {catalog : Catalog} {position : Nat}
      (hCatalog : f.model.catalog.foldAll events = .ok catalog)
      (hRead : Log.Read f.runner.position position events log) (hSome : 0 < events.length)
      (hAll : ∀ e ∈ early, f.runner.position < e.sequence → e ∈ events) :
      Progress f early log events (.saving catalog position events.length)
  | done (hNone : events = []) (hAll : ∀ e ∈ early, f.runner.position < e.sequence → e ∈ events) :
      Progress f early log events (.done ⟨0, f.runner.position⟩)

variable {early log more : List StoredEvent}

/-- What others append changes nothing about what a tick has read. -/
theorem Progress.grown (h : Progress f early log events stage) (hOrder : Log.InOrder more)
    (hGrown : log <+: more) : Progress f early more events stage := by
  obtain ⟨added, rfl⟩ := hGrown
  cases h with
  | reading hCatalog hRead => exact .reading hCatalog (hRead.append hOrder)
  | saving hCatalog hRead hSome hAll => exact .saving hCatalog (hRead.append hOrder) hSome hAll
  | done hNone hAll => exact .done hNone hAll

/-- **A page further**, a tick has read the page as well. -/
theorem Progress.page {s : EventStore} (hOrder : Log.InOrder s.log)
    (hSize : 1 ≤ f.runner.batchSize) (hEarly : early <+: s.log)
    (h : Progress f early s.log events (.reading catalog position folded))
    (hStage : f.afterPage catalog position folded (s.loadSince position f.runner.batchSize) =
      .ok stage) :
    Progress f early s.log (events ++ s.loadSince position f.runner.batchSize) stage := by
  obtain @⟨_, _, hCatalog, hRead⟩ := h
  have hAll {read : List StoredEvent}
      (hParts : Log.above f.runner.position s.log = read) :
      ∀ e ∈ early, f.runner.position < e.sequence → e ∈ read := by
    intro e he hAbove
    rw [← hParts]
    exact List.mem_filter.mpr ⟨hEarly.subset he, decide_eq_true hAbove⟩
  rw [Log.loadSince_eq hOrder] at hStage ⊢
  have hParts := (List.take_append_drop f.runner.batchSize (Log.above position s.log)).symm
  have hLength : ((Log.above position s.log).take f.runner.batchSize).length =
      min f.runner.batchSize (Log.above position s.log).length := List.length_take
  generalize (Log.above position s.log).take f.runner.batchSize = page at hStage hParts hLength ⊢
  rw [afterPage] at hStage
  split at hStage
  · next hLast =>
    -- nothing is left
    have hNil : page = [] := List.getLast?_eq_none_iff.mp hLast
    have hNone : Log.above position s.log = [] := by
      rw [hNil, List.length_nil] at hLength
      exact List.length_eq_zero_iff.mp (by omega)
    have hEnd : Log.above f.runner.position s.log = events ++ page := by
      rw [hRead.parts, hNone, hNil]
    split at hStage
    · next hFolded =>
      cases hStage
      have hEvents : events = [] := List.length_eq_zero_iff.mp hFolded
      rw [show position = f.runner.position by rw [hRead.reached, hEvents]; rfl]
      exact .done (by rw [hEvents, hNil]; rfl) (hAll hEnd)
    · next hFolded =>
      cases hStage
      have hAllRead := hAll hEnd
      rw [hNil, List.append_nil] at hAllRead ⊢
      exact .saving hCatalog hRead (Nat.pos_of_ne_zero hFolded) hAllRead
  · next last hLast =>
    obtain ⟨next, hFold, hStage⟩ := bind_eq_ok.mp hStage
    have hNext : f.model.catalog.foldAll (events ++ page) = .ok next :=
      Catalog.foldAll_append_ok.mpr ⟨catalog, hCatalog, hFold⟩
    have hFurther := hRead.page hOrder hParts hLast
    rw [← List.length_append] at hStage
    split at hStage
    · next hShort =>
      -- the page was the last one
      cases hStage
      have hNone : (Log.above position s.log).drop f.runner.batchSize = [] :=
        List.drop_eq_nil_of_le (by omega)
      have hEnd : Log.above f.runner.position s.log = events ++ page := by
        rw [hRead.parts, hParts, hNone, List.append_nil]
      have hSome : 0 < page.length := List.length_pos_of_mem (List.mem_of_getLast? hLast)
      exact .saving hNext hFurther (by rw [List.length_append]; omega) (hAll hEnd)
    · cases hStage
      exact .reading hNext hFurther

/-- A page makes no stage only if it cannot be folded. -/
theorem foldAll_of_afterPage_error {page : List StoredEvent} {e : Failure}
    (h : f.afterPage catalog position folded page = .error e) :
    catalog.foldAll page = .error e := by
  rw [afterPage] at h
  split at h
  · split at h
    · cases h
    · cases h
  · cases hFold : catalog.foldAll page with
    | error e' =>
      rw [hFold] at h
      cases h
      rfl
    | ok next =>
      rw [hFold] at h
      simp only [bind, Except.bind] at h
      split at h
      · cases h
      · cases h

/-- If a page cannot be folded, neither can what a tick has read with the page. -/
theorem page_unfolded {s : EventStore} {e : Failure} (hOrder : Log.InOrder s.log)
    (hCatalog : f.model.catalog.foldAll events = .ok catalog)
    (hRead : Log.Read f.runner.position position events s.log)
    (hFails : f.afterPage catalog position folded (s.loadSince position f.runner.batchSize) =
      .error e) :
    ∃ page, events ++ page <+: Log.above f.runner.position s.log ∧
      f.model.catalog.foldAll (events ++ page) = .error e := by
  refine ⟨s.loadSince position f.runner.batchSize, ?_, ?_⟩
  · rw [Log.loadSince_eq hOrder, hRead.parts]
    exact (List.prefix_append_right_inj events).mpr (List.take_prefix _ _)
  · rw [Catalog.foldAll_append, hCatalog]
    exact foldAll_of_afterPage_error hFails

/-- A tick that fails at its next stage has changed nothing. -/
theorem Progress.settles_failed {s : Backend} {e : Failure} (hOrder : Log.InOrder s.events.log)
    (h : Progress f early s.events.log events stage)
    (hStep : (step now f stage).run s = (.error e, b')) (hKept : s.checkpoints = b₀.checkpoints)
    (hSteady : b₀.IsSteady → s.IsSteady) :
    b'.events = s.events ∧ Settles now f b₀ b' events (.error e, f) := by
  cases h with
  | @reading catalog position hCatalog hRead =>
    obtain ⟨_, hSame, ⟨_, hFails, hRun⟩ | ⟨_, -, hRun⟩⟩ :=
      run_reading_or now f s catalog position events.length
    · cases hRun.symm.trans hStep
      refine ⟨hSame.events, .failed e (hSame.checkpoints.trans hKept) fun hb => ?_⟩
      rw [hSame.events]
      exact page_unfolded hOrder hCatalog hRead (hFails (hSteady hb))
    · cases hRun.symm.trans hStep
  | @saving catalog position =>
    -- a checkpoint that is not saved on steady storage does not exist
    obtain ⟨_, hEvents, ⟨hSame, hUnsteady, _, hRun⟩ | ⟨-, hRun⟩⟩ :=
      run_saving_or now f s catalog position events.length
    · cases hRun.symm.trans hStep
      exact ⟨hEvents, .failed e (hSame.trans hKept) fun hb => absurd (hSteady hb) hUnsteady⟩
    · cases hRun.symm.trans hStep
  | done => cases hStep

/-- A tick that saves what it has read is done, and leaves its catalog and its position. -/
theorem Progress.settles_saved {s : Backend} {following : TickStage}
    (hOrder : Log.InOrder s.events.log)
    (h : Progress f b₀.events.log s.events.log events (.saving catalog position folded))
    (hStep : (step now f (.saving catalog position folded)).run s = (.ok (g, following), b'))
    (hKept : s.checkpoints = b₀.checkpoints) :
    ∃ outcome, following = .done outcome ∧ b'.events = s.events ∧
      Settles now f b₀ b' events (.ok outcome, g) := by
  obtain ⟨_, hEvents, ⟨-, -, _, hRun⟩ | ⟨hSaved, hRun⟩⟩ :=
    run_saving_or now f s catalog position folded
  · cases hRun.symm.trans hStep
  · cases hRun.symm.trans hStep
    refine ⟨_, rfl, hEvents, ?_⟩
    cases h with
    | saving hCatalog hRead hSome hAll =>
      rw [← hEvents] at hOrder hRead
      refine .folded (hRead.eq_between hOrder) hRead.reached hAll hCatalog
        (f.hasComeTo_advanceTo catalog position) (fun _ => ?_) (fun hNone => ?_)
      · rw [hSaved]
        exact hKept ▸ f.saved_save now catalog position _
      · rw [hNone] at hSome
        cases hSome

/-- What a tick leaves behind that has read some events already. -/
theorem Ends.settles_of_progress {result : Ticked} (hSize : 1 ≤ f.runner.batchSize)
    (h : Ends now traffic b g stage events result b') : ∀ {read : List StoredEvent}, g = f →
      Log.InOrder b.events.log → b₀.events.log <+: b.events.log →
        b.checkpoints = b₀.checkpoints → (b₀.IsSteady → b.IsSteady) →
          Progress f b₀.events.log b.events.log read stage →
            Log.InOrder b'.events.log ∧ b₀.events.log <+: b'.events.log ∧
              Settles now f b₀ b' (read ++ events) result := by
  -- stage by stage: the events read so far grow, and with them what `Progress` says
  induction h with
  | done traffic b g outcome =>
    rintro read rfl hOrder hEarly hKept - (_ | _ | ⟨rfl, hAll⟩)
    refine ⟨hOrder, hEarly, ?_⟩
    exact .folded ((Log.read_nothing _ _).eq_between hOrder) rfl hAll rfl
      ⟨rfl, rfl, rfl, rfl, rfl, rfl⟩ (fun hSome => absurd rfl hSome) (fun _ => hKept)
  | @failed traffic b b' g stage e hStep =>
    rintro read rfl hOrder hEarly hKept hSteady hProgress
    obtain ⟨hOrder', hGrown⟩ := appended_log hOrder (traffic.headD [])
    obtain ⟨hEvents, hSettles⟩ :=
      (hProgress.grown hOrder' hGrown).settles_failed hOrder' hStep hKept hSteady
    rw [List.append_nil, hEvents]
    exact ⟨hOrder', hEarly.trans hGrown, hSettles⟩
  | @next traffic b b' b'' g g' stage following events result hGoing hStep hRest ih =>
    rintro read rfl hOrder hEarly hKept hSteady hProgress
    obtain ⟨hOrder', hGrown⟩ := appended_log hOrder (traffic.headD [])
    have hEarly' := hEarly.trans hGrown
    have hProgress' := hProgress.grown hOrder' hGrown
    cases stage with
    | restoring => cases hProgress
    | reading catalog position folded =>
      obtain ⟨_, hSame, ⟨_, -, hRun⟩ | ⟨_, hStage, hRun⟩⟩ := run_reading_or now g
        (b.appended (traffic.headD [])) catalog position folded
      · cases hRun.symm.trans hStep
      · cases hRun.symm.trans hStep
        have hNext := hProgress'.page hOrder' hSize hEarly' hStage
        rw [← List.append_assoc]
        rw [← hSame.events] at hOrder' hEarly' hNext ⊢
        exact ih rfl hOrder' hEarly' (hSame.checkpoints.trans hKept)
          (fun hb => hSame.steady (hSteady hb)) hNext
    | saving catalog position folded =>
      -- nothing is read any more, so the rest of the tick is its end
      obtain ⟨outcome, rfl, hEvents, hSettles⟩ := hProgress'.settles_saved hOrder' hStep hKept
      obtain ⟨rfl, rfl, rfl⟩ := hRest.unique (.done _ _ _ _)
      have hRead : read ++ ([] ++ []) = read := by rw [List.append_nil, List.append_nil]
      rw [← hEvents] at hOrder' hEarly'
      refine ⟨hOrder', hEarly', ?_⟩
      show Settles now g b₀ b'' (read ++ ([] ++ [])) _
      rw [hRead]
      exact hSettles
    | done outcome => exact absurd rfl (hGoing outcome)

/-- **What a tick leaves behind**, whatever others append in the meantime: it has folded the events
up to its new position, or it has failed and has changed nothing. -/
theorem Ends.settles {result : Ticked} (hRestored : f.runner.restored = true)
    (hSize : 1 ≤ f.runner.batchSize) (hOrder : Log.InOrder b.events.log)
    (h : Ends now traffic b f .restoring events result b') :
    Log.InOrder b'.events.log ∧ b.events.log <+: b'.events.log ∧
      Settles now f b b' events result := by
  cases h with
  | failed hStep => cases (run_restored now hRestored _).symm.trans hStep
  | next hGoing hStep hRest =>
    cases (run_restored now hRestored _).symm.trans hStep
    obtain ⟨hOrder', hGrown⟩ := appended_log hOrder (traffic.headD [])
    exact hRest.settles_of_progress hSize rfl hOrder' hGrown rfl (fun hb => hb)
      (.reading rfl (Log.read_nothing _ _))

-- ---------------------------------------------------------------------------
-- The tick of a follower
-- ---------------------------------------------------------------------------

/-- A tick from a stage on, with fuel for so many stages. -/
def tickFrom (now : Instant) (fuel : Nat) (f : Follower) (stage : TickStage) :
    StateM Backend Ticked := do
  match ← prepare now fuel f stage with
  | (.ok stage, f) => finish now f stage
  | (.error e, f) => return (.error e, f)

theorem run_tick (now : Instant) (f : Follower) (b : Backend) :
    (tick now f).run b = (tickFrom now (stageBound b.events.log.length) f .restoring).run b := by
  rfl

/-- A tick ends at a stage that fails. -/
theorem run_tickFrom_failed {e : Failure} (hGoing : ¬ HasRead stage) (fuel : Nat)
    (hStep : (step now f stage).run b = (.error e, b')) :
    (tickFrom now (fuel + 1) f stage).run b = ((.error e, f), b') := by
  rw [tickFrom, prepare_succ hGoing, bind_assoc, run_then hStep]
  rfl

/-- After a stage that goes well the tick goes on from the next one. -/
theorem run_tickFrom_next {following : TickStage} (hGoing : ¬ HasRead stage) (fuel : Nat)
    (hStep : (step now f stage).run b = (.ok (g, following), b')) :
    (tickFrom now (fuel + 1) f stage).run b = (tickFrom now fuel g following).run b' := by
  rw [tickFrom, prepare_succ hGoing, bind_assoc, run_then hStep]
  rfl

/-- A tick that has read what there was ends, if nobody appends. -/
theorem ends_finish (h : HasRead stage) (now : Instant) (fuel : Nat) (f : Follower) (b : Backend) :
    ∃ events, Ends now [] b f stage events ((tickFrom now fuel f stage).run b).1
      ((tickFrom now fuel f stage).run b).2 := by
  rw [tickFrom, run_then (prepare_of_hasRead h now fuel f b)]
  cases h with
  | done outcome => exact ⟨_, .done [] b f outcome⟩
  | saving catalog position folded =>
    obtain ⟨b', -, ⟨-, -, e, hStep⟩ | ⟨-, hStep⟩⟩ :=
      run_saving_or now f b catalog position folded
    · rw [show (finish now f (.saving catalog position folded)).run b = ((.error e, f), b') from
        run_then hStep]
      exact ⟨_, .failed hStep⟩
    · rw [show (finish now f (.saving catalog position folded)).run b =
        ((.ok ⟨folded, position⟩, f.advanceTo catalog position), b') from run_then hStep]
      exact ⟨_, .next (by simp) hStep (.done _ _ _ _)⟩

/-- So does a tick that reads, if it has fuel for what is left of the log. -/
theorem ends_reading (now : Instant) (hSize : 1 ≤ f.runner.batchSize) : ∀ (fuel : Nat)
    {b : Backend} (catalog : Catalog) (position folded : Nat), Log.InOrder b.events.log →
      (Log.above position b.events.log).length < fuel →
        ∃ events, Ends now [] b f (.reading catalog position folded) events
          ((tickFrom now fuel f (.reading catalog position folded)).run b).1
          ((tickFrom now fuel f (.reading catalog position folded)).run b).2 := by
  intro fuel
  induction fuel with
  | zero => exact fun _ _ _ _ hFuel => absurd hFuel (Nat.not_lt_zero _)
  | succ fuel ih =>
    intro b catalog position folded hOrder hFuel
    have hGoing : ¬ HasRead (.reading catalog position folded) := by intro h; cases h
    obtain ⟨b', hSame, ⟨e, -, hStep⟩ | ⟨stage, hStage, hStep⟩⟩ :=
      run_reading_or now f b catalog position folded
    · rw [run_tickFrom_failed hGoing fuel hStep]
      exact ⟨_, .failed hStep⟩
    · rw [run_tickFrom_next hGoing fuel hStep]
      have hRest : ∃ events, Ends now [] b' f stage events
          ((tickFrom now fuel f stage).run b').1 ((tickFrom now fuel f stage).run b').2 := by
        rw [Log.loadSince_eq hOrder] at hStage
        rcases afterPage_eq hSize catalog position folded (Log.above position b.events.log) with
          hEnd | ⟨page, more, last, next, hParts, hLast, -, hNext⟩
        · exact ends_finish (hasRead_stageAfter (hEnd.symm.trans hStage)) now fuel f b'
        · -- the rest is shorter by the page
          cases hNext.symm.trans hStage
          have hSome : 0 < page.length := List.length_pos_of_mem (List.mem_of_getLast? hLast)
          rw [hParts, List.length_append] at hFuel
          rw [← hSame.events] at hOrder hParts
          exact ih next last.sequence _ hOrder (by rw [(hOrder.page hParts hLast).2]; omega)
      obtain ⟨events, hRest⟩ := hRest
      exact ⟨_, .next (by simp) hStep hRest⟩

/-- If nobody appends, the follower's own tick comes to an end. -/
theorem ends_tick (now : Instant) (hSize : 1 ≤ f.runner.batchSize)
    (hOrder : Log.InOrder b.events.log) :
    ∃ events, Ends now [] b f .restoring events ((tick now f).run b).1 ((tick now f).run b).2 := by
  have hGoing : ¬ HasRead .restoring := by intro h; cases h
  obtain ⟨b', hSame, ⟨e, hStep⟩ | ⟨g, hBegun, hStep⟩⟩ := run_restoring_or now f b
  · rw [run_tick, stageBound, run_tickFrom_failed hGoing _ hStep]
    exact ⟨_, .failed hStep⟩
  · rw [← hSame.events] at hOrder
    have hLength : (Log.above g.runner.position b'.events.log).length ≤ b'.events.log.length :=
      List.length_filter_le _ _
    obtain ⟨events, hRest⟩ := ends_reading now ((begun_keeps hBegun).2.symm ▸ hSize)
      (2 * b.events.log.length + 3) g.model.catalog g.runner.position 0 hOrder
      (by rw [hSame.events] at hLength ⊢; omega)
    rw [run_tick, stageBound, run_tickFrom_next hGoing _ hStep]
    exact ⟨_, .next (by simp) hStep hRest⟩

/-- **If nobody appends, a tick goes as the follower's own tick does.** -/
theorem run_tick_iff (hSize : 1 ≤ f.runner.batchSize) (hOrder : Log.InOrder b.events.log)
    (result : Ticked) :
    (tick now f).run b = (result, b') ↔ ∃ events, Ends now [] b f .restoring events result b' := by
  obtain ⟨events, hOwn⟩ := ends_tick now hSize hOrder
  constructor
  · intro hRun
    rw [hRun] at hOwn
    exact ⟨events, hOwn⟩
  · rintro ⟨_, hEnds⟩
    obtain ⟨-, hResult, hStorage⟩ := hOwn.unique hEnds
    exact Prod.ext hResult hStorage

-- ---------------------------------------------------------------------------
-- Pages of any size
-- ---------------------------------------------------------------------------

/-- A tick is sound, whatever others append before its stages, as long as there is room in the log
for their events: it comes to an end, the log is in order then and its sequences are words of 64
bits, and what the tick leaves behind is right. If nobody appends it is the follower's own tick. -/
structure TicksSoundly (now : Instant) (b : Backend) (f : Follower) : Prop where
  stops : ∀ traffic, b.events.HasRoom (Traffic.events traffic) → Stops now traffic b f .restoring
  settles : ∀ traffic events result b', b.events.HasRoom (Traffic.events traffic) →
    Ends now traffic b f .restoring events result b' →
      Log.InOrder b'.events.log ∧ (∀ e ∈ b'.events.log, e.sequence < Word.values64) ∧
        b.events.log <+: b'.events.log ∧ Settles now f b b' events result
  own : ∀ result b', (tick now f).run b = (result, b') ↔
    ∃ events, Ends now [] b f .restoring events result b'

/-- The size of the pages does not show: neither in what comes of a tick, nor in the position and
the read model afterwards, nor in the checkpoints. -/
def AnySize (now : Instant) (b : Backend) (name : String) (position : Nat) (model : ReadModel) :
    Prop :=
  ∃ outcome position' model' checkpoints, ∀ batchSize, ∃ b',
    (tick now (restoredAt name batchSize position model)).run b =
        ((outcome, restoredAt name batchSize position' model'), b') ∧
      b'.events = b.events ∧ b'.checkpoints = checkpoints

/-- On steady storage that nobody appends to, the size of the pages does not show. -/
theorem anySize (now : Instant) (name : String) (position : Nat) (model : ReadModel)
    (hSteady : b.IsSteady) (hOrder : Log.InOrder b.events.log) :
    AnySize now b name position model := by
  have hTick (batchSize : Nat) := tick_quiet (f := restoredAt name batchSize position model) now
    hSteady hOrder (Nat.le_max_right batchSize 1) rfl
  have hStart : ∀ batchSize, (restoredAt name batchSize position model).runner.position =
    position := fun _ => rfl
  simp only [hStart] at hTick
  generalize Log.above position b.events.log = rest at hTick
  cases hFold : model.catalog.foldAll rest with
  | error e =>
    refine ⟨.error e, position, model, b.checkpoints, fun batchSize => ?_⟩
    have hFailed : (restoredAt name batchSize position model).model.catalog.foldAll rest =
        .error e := hFold
    obtain ⟨b', hRun, hAgrees⟩ := hTick batchSize
    rw [ticked, hFailed] at hRun
    rw [checkpointed, hFailed] at hAgrees
    exact ⟨b', hRun, hAgrees.events, hAgrees.checkpoints⟩
  | ok next =>
    refine ⟨.ok ⟨rest.length, Log.reached position rest⟩, Log.reached position rest,
      { model with catalog := next },
      if rest.length = 0 then b.checkpoints
      else b.checkpoints.save ⟨name, Log.reached position rest, next.toJson, now⟩,
      fun batchSize => ?_⟩
    have hFolded : (restoredAt name batchSize position model).model.catalog.foldAll rest =
        .ok next := hFold
    obtain ⟨b', hRun, hAgrees⟩ := hTick batchSize
    rw [ticked, hFolded] at hRun
    rw [checkpointed, hFolded] at hAgrees
    exact ⟨b', hRun, hAgrees.events, hAgrees.checkpoints⟩

/-- **Ticks on a busy log.** Wherever a restored follower is, whatever it shows, and whatever the
size of its pages, its tick on a log in order is sound: it comes to an end and has folded all events
up to its new position, each once and in order, or it has failed and has changed nothing. On steady
storage it fails only because of an event that cannot be folded, and if nobody appends, the size of
the pages does not show. -/
theorem tick_busy (now : Instant) (name : String) (position : Nat) (model : ReadModel) {b : Backend}
    (hOrder : Log.InOrder b.events.log) :
    (∀ batchSize, TicksSoundly now b (restoredAt name batchSize position model)) ∧
      (b.IsSteady → AnySize now b name position model) := by
  refine ⟨fun batchSize => ?_, fun hSteady => anySize now name position model hSteady hOrder⟩
  have hSize : 1 ≤ (restoredAt name batchSize position model).runner.batchSize :=
    Nat.le_max_right batchSize 1
  exact
    { stops := fun traffic _ => exists_ends now rfl hSize hOrder traffic
      settles := fun _ _ _ _ hRoom h => by
        obtain ⟨hOrder', hGrown, hSettles⟩ := h.settles rfl hSize hOrder
        exact ⟨hOrder', fun e he => hOrder'.lt_of_hasRoom (h.hasRoom hRoom) he, hGrown, hSettles⟩
      own := fun result b' => run_tick_iff hSize hOrder result }

/-- A template that was created in 2021. -/
def newer : Summary := ⟨.ofNat 2, "b", "", false, ⟨2021, 3, 4, 5, 6, by decide, by decide⟩, default⟩

/-- A follower that shows both templates of a log with gaps and has come to the first gap. With
pages of two events it folds the remaining three, and saves what it shows then, the newer template
first. It would also come to an end if a third template were created after the first page. -/
theorem tick_busy_of_interleaved :
    let b := Backend.ofEvents ⟨[], Catalog.interleaved⟩
    let model : ReadModel := ⟨⟨[⟨.ofNat 1, "a", "", false, default, default⟩, newer]⟩, none⟩
    let listed : List Summary :=
      [{ newer with archived := true }, ⟨.ofNat 1, "c", "", false, default, default⟩]
    let created := (TemplateEvent.created "d" "" .empty default).toNewEvent
    let traffic : Traffic := [[], [], [⟨default, .ofNat 3, 0, [created]⟩]]
    Log.InOrder b.events.log ∧
      (∀ batchSize, TicksSoundly default b (restoredAt "list" batchSize 2 model)) ∧
      AnySize default b "list" 2 model ∧
      (∃ f' b', (tick default (restoredAt "list" 2 2 model)).run b = ((.ok ⟨3, 9⟩, f'), b') ∧
        f'.model.catalog.listing = listed ∧ f'.runner.position = 9 ∧
        b'.checkpoints.load "list" =
          some ⟨"list", 9, Catalog.shape.encode (listed.map Summary.toData), default⟩) ∧
      b.events.HasRoom traffic.events ∧
      Stops default traffic b (restoredAt "list" 2 2 model) .restoring := by
  intro b model listed created traffic
  have hOrder : Log.InOrder b.events.log := by
    simp [b, Backend.ofEvents, Log.InOrder, Catalog.interleaved]
  obtain ⟨hSound, hSize⟩ := tick_busy default "list" 2 model hOrder
  have hRoom : b.events.HasRoom traffic.events := by decide
  refine ⟨hOrder, hSound, hSize (Backend.isSteady_ofEvents _), ?_, hRoom,
    (hSound 2).stops traffic hRoom⟩
  have hOutcome : ((tick default (restoredAt "list" 2 2 model)).run b).1.1 = .ok ⟨3, 9⟩ := by
    decide +kernel
  have hRows : ((tick default (restoredAt "list" 2 2 model)).run b).1.2.model.catalog.rows =
      listed.reverse := by
    decide +kernel
  rcases hRun : (tick default (restoredAt "list" 2 2 model)).run b with ⟨⟨outcome, f'⟩, b'⟩
  rw [hRun] at hOutcome hRows
  have hListed : f'.model.catalog.listing = listed := by
    -- newest first, so the other way round than by identifier
    rw [Catalog.listing, hRows]
    exact Summary.eq_of_pairwise_precedes (Summary.pairwise_precedes_sort (by decide)) (by decide)
      ((List.mergeSort_perm _ _).trans listed.reverse_perm)
  cases hOutcome
  obtain ⟨events, hEnds⟩ := ((hSound 2).own _ _).mp hRun
  obtain ⟨-, -, -, hSettles⟩ := (hSound 2).settles [] events _ _ (by decide) hEnds
  generalize hResult : ((.ok ⟨3, 9⟩, f') : Ticked) = result at hSettles
  cases hSettles with
  | failed => cases hResult
  | @folded g position catalog hEvents hReached hAll hCatalog hFollower hSaved hUnsaved =>
    obtain ⟨⟨hLength, rfl⟩, rfl⟩ : (3 = events.length ∧ 9 = position) ∧ f' = g := by
      simpa using hResult
    have hSome : events ≠ [] := by
      intro hNone
      rw [hNone] at hLength
      cases hLength
    refine ⟨f', b', by rw [← hLength], hListed, hFollower.position, ?_⟩
    rw [← hListed, hFollower.catalog]
    exact (hSaved hSome).own

end Follower

end Galley
