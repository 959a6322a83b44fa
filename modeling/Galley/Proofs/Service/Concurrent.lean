import Mathlib.Logic.Function.Basic
import Galley.Proofs.Service.Call

/-!
# Calls that get in each other's way

Any number of calls are under way at once. Each takes two turns, one for each half; between them the
turns of other calls may come, in any order. The clock is read anew at every turn.

What a call has worked out at its first turn came from a stream that has gone on since. So along
every schedule each call can be traced (`Traced`): the stream that it had loaded is the beginning of
the stream it was appended to, and that is the beginning of the stream now. An inversion lemma says
once what a turn can do (`Traces.moves`); the invariants of runs are read off it.

Main results:

* `Traces.moves` — what a turn can do.
* `Wins.plan_whole` — what is appended comes from the whole stream, in a modest world.
* `traces_run` — every call of a run can be traced.
-/

namespace Galley.Service

-- ---------------------------------------------------------------------------
-- Turns
-- ---------------------------------------------------------------------------

/-- How far a call has got: it has not started, waits for its second turn, failed at its first turn,
or is finished. -/
inductive Phase where
  | idle
  | waiting (happened : Instant) (p : Pending)
  | refused (f : Failure)
  | finished (happened : Instant) (p : Pending) (result : Except Failure Template)

/-- A turn of a call, at a reading of the clock. -/
inductive Turn where
  | start (i : Nat) (now : Instant)
  | finish (i : Nat) (now : Instant)

/-- The call whose turn it is. -/
def Turn.call : Turn → Nat
  | start i _ => i
  | finish i _ => i

/-- Storage, how far each call has got, and the calls that have added to the log, in the order in
which they did. -/
structure World where
  backend : Backend
  phase : Nat → Phase
  appended : List (Nat × Clock)

/-- What a call gave, once it has ended. -/
def Phase.result? : Phase → Option (Except Failure Template)
  | refused f => some (.error f)
  | finished _ _ result => some result
  | _ => none

/-- The version that a finished call had loaded. -/
def Phase.loadedVersion? : Phase → Option Nat
  | finished _ p _ => some p.loadedVersion
  | _ => none

namespace World

/-- The events so far. -/
abbrev events (w : World) : EventStore := w.backend.events

/-- The world before any turn. -/
def initial (s : EventStore) : World := ⟨.ofEvents s, fun _ => .idle, []⟩

/-- A call takes its first turn. -/
def start (calls : Nat → Call) (w : World) (i : Nat) (now : Instant) : World :=
  match ((calls i).prepare now).run w.backend with
  | (.ok p, b) => ⟨b, Function.update w.phase i (.waiting now p), w.appended⟩
  | (.error f, b) => ⟨b, Function.update w.phase i (.refused f), w.appended⟩

/-- A call takes its second turn. -/
def finish (w : World) (i : Nat) (happened now : Instant) (p : Pending) : World :=
  let (result, b) := (commit now p).run w.backend
  { backend := b
    phase := Function.update w.phase i (.finished happened p result)
    appended :=
      if b.events.log.length = w.events.log.length then w.appended
      else w.appended ++ [(i, ⟨happened, now⟩)] }

/-- A turn. One that does not come at its time does nothing. -/
def step (calls : Nat → Call) (w : World) : Turn → World
  | .start i now =>
    match w.phase i with
    | .idle => w.start calls i now
    | _ => w
  | .finish i now =>
    match w.phase i with
    | .waiting happened p => w.finish i happened now p
    | _ => w

/-- The turns of a schedule, one after another. -/
def run (calls : Nat → Call) (w : World) (schedule : List Turn) : World :=
  schedule.foldl (step calls) w

theorem run_append (calls : Nat → Call) (w : World) (first more : List Turn) :
    w.run calls (first ++ more) = (w.run calls first).run calls more :=
  List.foldl_append

end World

-- ---------------------------------------------------------------------------
-- Tracing a call
-- ---------------------------------------------------------------------------

/-- What became of a plan that a call made from a stream: nothing was to be appended, or the append
failed, or it went through. -/
inductive Outcome (s : EventStore) (c : Call) (history : List StoredEvent) (p : Pending) :
    Except Failure Template → Prop
  | rested (hNothing : p.aggregate.uncommitted = []) : Outcome s c history p p.aggregate.snapshot
  | lost (f : Failure) : Outcome s c history p (.error f)
  | won {e : TemplateEvent} {stream : List StoredEvent} (now : Instant) (sequence : Nat)
      (hEvent : p.aggregate.uncommitted = [e]) (hHistory : history <+: stream)
      (hLength : stream.length = p.expected)
      (hStream : stream ++ EventStore.number c.id now p.expected sequence [e.toNewEvent] <+:
        s.held c.id) :
      Outcome s c history p p.aggregate.snapshot

/-- A call as far as it has got, told by the streams that it has met. -/
inductive Traced (s : EventStore) (c : Call) : Phase → Prop
  | idle : Traced s c .idle
  | refused (f : Failure) : Traced s c (.refused f)
  | waiting {happened : Instant} {p : Pending} {history : List StoredEvent}
      (hHistory : history <+: s.held c.id)
      (hPlan : c.plan happened (EventStore.loaded c.id history) = .ok p) :
      Traced s c (.waiting happened p)
  | finished {happened : Instant} {p : Pending} {result : Except Failure Template}
      {history : List StoredEvent} (hHistory : history <+: s.held c.id)
      (hPlan : c.plan happened (EventStore.loaded c.id history) = .ok p)
      (hOutcome : Outcome s c history p result) : Traced s c (.finished happened p result)

/-- A trace outlasts the streams going on. -/
theorem Traced.mono {s s' : EventStore} {c : Call} {phase : Phase} (h : Traced s c phase)
    (hGoesOn : s.held c.id <+: s'.held c.id) : Traced s' c phase := by
  cases h with
  | idle => exact .idle
  | refused f => exact .refused f
  | waiting hHistory hPlan => exact .waiting (hHistory.trans hGoesOn) hPlan
  | finished hHistory hPlan hOutcome =>
    refine .finished (hHistory.trans hGoesOn) hPlan ?_
    cases hOutcome with
    | rested hNothing => exact .rested hNothing
    | lost f => exact .lost f
    | won now sequence hEvent hHistory hLength hStream =>
      exact .won now sequence hEvent hHistory hLength (hStream.trans hGoesOn)

/-- Every call can be traced, and no outage is planned. -/
structure Traces (calls : Nat → Call) (w : World) : Prop where
  steady : w.backend.IsSteady
  traced : ∀ i, Traced w.events (calls i) (w.phase i)

theorem traces_initial (calls : Nat → Call) (s : EventStore) : Traces calls (.initial s) :=
  ⟨Backend.isSteady_ofEvents s, fun _ => .idle⟩

/-- Every update that succeeded had named no version, or one that is not above the version that it
had loaded. -/
def World.IsModest (calls : Nat → Call) (w : World) : Prop :=
  ∀ i happened p t, w.phase i = .finished happened p (.ok t) →
    ∀ e, (calls i).named = some e → e ≤ p.loadedVersion

/-- After a turn of a call, the call has got further, the events and the order of appends are the
given ones, and nothing else has changed. -/
structure World.Becomes (w : World) (i : Nat) (w' : World) (phase : Phase) (events : EventStore)
    (appended : List (Nat × Clock)) : Prop where
  steady : w'.backend.IsSteady
  phase_self : w'.phase i = phase
  phase_of_ne : ∀ j, j ≠ i → w'.phase j = w.phase j
  events : w'.events = events
  appended : w'.appended = appended

theorem World.becomes_update {w : World} {i : Nat} {phase : Phase} {b : Backend}
    {events : EventStore} {appended : List (Nat × Clock)} (hSteady : b.IsSteady)
    (hEvents : b.events = events) :
    w.Becomes i ⟨b, Function.update w.phase i phase, appended⟩ phase events appended :=
  ⟨hSteady, Function.update_self i phase w.phase,
    fun _ hOther => Function.update_of_ne hOther phase w.phase, hEvents, rfl⟩

/-- A call appends the event that it has worked out, and is finished. -/
structure Wins (calls : Nat → Call) (w : World) (i : Nat) (w' : World) (happened now : Instant)
    (p : Pending) (e : TemplateEvent) : Prop where
  phase : w.phase i = .waiting happened p
  event : p.aggregate.uncommitted = [e]
  length : (w.events.held (calls i).id).length = p.expected
  next : w.Becomes i w' (.finished happened p p.aggregate.snapshot)
    (w.events.grown (calls i).id
      (EventStore.number (calls i).id now p.expected w.events.lastSequence [e.toNewEvent]))
    (w.appended ++ [(i, ⟨happened, now⟩)])

/-- What a turn of a call can do: nothing, since it does not come at its time; refuse the call, or
load a plan for it; and then end it, with nothing to append, with a lost race, or with an append. -/
inductive Moves (calls : Nat → Call) (w : World) (i : Nat) (w' : World) : Prop
  | stayed (hSame : w' = w)
  | refused (f : Failure) (hPhase : w.phase i = .idle)
      (hNext : w.Becomes i w' (.refused f) w.events w.appended)
  | loaded (now : Instant) (p : Pending) (hPhase : w.phase i = .idle)
      (hPlan : (calls i).plan now (w.events.load (calls i).id) = .ok p)
      (hNext : w.Becomes i w' (.waiting now p) w.events w.appended)
  | rested (happened : Instant) (p : Pending) (hPhase : w.phase i = .waiting happened p)
      (hNothing : p.aggregate.uncommitted = [])
      (hNext : w.Becomes i w' (.finished happened p p.aggregate.snapshot) w.events w.appended)
  | lost (happened : Instant) (p : Pending) (f : Failure)
      (hPhase : w.phase i = .waiting happened p)
      (hNext : w.Becomes i w' (.finished happened p (.error f)) w.events w.appended)
  | won (happened now : Instant) (p : Pending) (e : TemplateEvent)
      (hWins : Wins calls w i w' happened now p e)

variable {calls : Nat → Call} {w w' : World} {i : Nat}

/-- A first turn fails, or leaves a plan that comes from the stream as it is. -/
theorem Traces.moves_start (h : Traces calls w) (now : Instant) (hPhase : w.phase i = .idle) :
    Moves calls w i (w.start calls i now) := by
  obtain ⟨hResult, hEvents, hSteady⟩ := (calls i).does_prepare now w.backend h.steady
  rw [World.start]
  rcases hRun : ((calls i).prepare now).run w.backend with ⟨f | p, b⟩
  · rw [hRun] at hEvents hSteady
    exact .refused f hPhase (World.becomes_update hSteady hEvents)
  · rw [hRun] at hResult hEvents hSteady
    exact .loaded now p hPhase hResult.symm (World.becomes_update hSteady hEvents)

/-- A call that waits has a plan from the beginning of its stream. -/
theorem Traces.waiting (h : Traces calls w) {happened : Instant} {p : Pending}
    (hPhase : w.phase i = .waiting happened p) :
    ∃ history, history <+: w.events.held (calls i).id ∧
      (calls i).plan happened (EventStore.loaded (calls i).id history) = .ok p := by
  have hTraced := h.traced i
  rw [hPhase] at hTraced
  cases hTraced with
  | waiting hHistory hPlan => exact ⟨_, hHistory, hPlan⟩

/-- A plan has nothing to append, or one event for the stream of its call. -/
theorem Traces.pending (h : Traces calls w) {happened : Instant} {p : Pending}
    (hPhase : w.phase i = .waiting happened p) :
    p.aggregate.id = (calls i).id ∧
      (p.aggregate.uncommitted = [] ∨ ∃ e, p.aggregate.uncommitted = [e]) := by
  obtain ⟨history, -, hPlan⟩ := h.waiting hPhase
  obtain ⟨a, hBase, hPlans⟩ := Call.plan_ok hPlan
  refine ⟨hPlans.id.trans (Call.base_ok hBase).1, ?_⟩
  cases hPlans with
  | nothing hRests => exact .inl (Call.base_ok hBase).2
  | event hRecords hTaken => exact .inr ⟨_, rfl⟩

/-- A second turn has nothing to append, loses the race, or appends to the stream. -/
theorem Traces.moves_finish (h : Traces calls w) {happened : Instant} {p : Pending} (now : Instant)
    (hPhase : w.phase i = .waiting happened p) :
    Moves calls w i (w.finish i happened now p) := by
  obtain ⟨hResult, hEvents, hSteady⟩ := does_commit now p w.backend h.steady
  obtain ⟨hId, hNothing | ⟨e, hEvent⟩⟩ := h.pending hPhase
  · rw [Pending.effect_nothing hNothing] at hResult hEvents
    rw [World.finish]
    rcases hRun : (commit now p).run w.backend with ⟨result, b⟩
    rw [hRun] at hResult hEvents hSteady
    simp only at hResult hEvents hSteady
    simp only [World.events, hEvents, if_pos, hResult]
    exact .rested happened p hPhase hNothing (World.becomes_update hSteady hEvents)
  · rw [Pending.effect_event hEvent, hId] at hResult hEvents
    rw [World.finish]
    rcases hRun : (commit now p).run w.backend with ⟨result, b⟩
    rw [hRun] at hResult hEvents hSteady
    simp only at hResult hEvents hSteady
    by_cases hLength : (w.events.held (calls i).id).length = p.expected
    · rw [if_pos hLength] at hResult hEvents
      simp only at hResult hEvents
      have hLog : b.events.log.length ≠ w.events.log.length := by
        rw [hEvents, EventStore.grown, List.length_append, EventStore.length_number]
        simp
      simp only [if_neg hLog, hResult]
      exact .won happened now p e
        ⟨hPhase, hEvent, hLength, World.becomes_update hSteady hEvents⟩
    · rw [if_neg hLength] at hResult hEvents
      simp only at hResult hEvents
      simp only [World.events, hEvents, if_pos, hResult]
      exact .lost happened p _ hPhase (World.becomes_update hSteady hEvents)

/-- **What a turn can do.** -/
theorem Traces.moves (h : Traces calls w) (turn : Turn) :
    Moves calls w turn.call (w.step calls turn) := by
  cases turn with
  | start i now =>
    rw [World.step]
    split
    · next hPhase => exact h.moves_start now hPhase
    · exact .stayed rfl
  | finish i now =>
    rw [World.step]
    split
    · next happened p hPhase => exact h.moves_finish now hPhase
    · exact .stayed rfl

/-- A turn appends, or it leaves the events and the order of appends as they are. -/
theorem Moves.quiet_or_wins (h : Moves calls w i w') :
    (w'.events = w.events ∧ w'.appended = w.appended) ∨
      ∃ happened now p e, Wins calls w i w' happened now p e := by
  cases h with
  | stayed hSame => exact .inl ⟨hSame ▸ rfl, hSame ▸ rfl⟩
  | refused _ _ hNext => exact .inl ⟨hNext.events, hNext.appended⟩
  | loaded _ _ _ _ hNext => exact .inl ⟨hNext.events, hNext.appended⟩
  | rested _ _ _ _ hNext => exact .inl ⟨hNext.events, hNext.appended⟩
  | lost _ _ _ _ hNext => exact .inl ⟨hNext.events, hNext.appended⟩
  | won happened now p e hWins => exact .inr ⟨happened, now, p, e, hWins⟩

/-- A turn does nothing, or its call gets further. -/
theorem Moves.same_or_becomes (h : Moves calls w i w') :
    w' = w ∨ ∃ phase events appended, w.Becomes i w' phase events appended := by
  cases h with
  | stayed hSame => exact .inl hSame
  | refused _ _ hNext => exact .inr ⟨_, _, _, hNext⟩
  | loaded _ _ _ _ hNext => exact .inr ⟨_, _, _, hNext⟩
  | rested _ _ _ _ hNext => exact .inr ⟨_, _, _, hNext⟩
  | lost _ _ _ _ hNext => exact .inr ⟨_, _, _, hNext⟩
  | won _ _ _ _ hWins => exact .inr ⟨_, _, _, hWins.next⟩

/-- Streams go on at every turn. -/
theorem Moves.held_prefix (h : Moves calls w i w') (id : Uuid) :
    w.events.held id <+: w'.events.held id := by
  rcases h.quiet_or_wins with ⟨hEvents, -⟩ | ⟨happened, now, p, e, hWins⟩
  · exact hEvents ▸ List.prefix_refl _
  · rw [hWins.next.events]
    exact EventStore.held_prefix_grown _ _ _ _

/-- No move brings an outage to steady storage. -/
theorem Moves.steady (h : Moves calls w i w') (hSteady : w.backend.IsSteady) :
    w'.backend.IsSteady := by
  rcases h.same_or_becomes with rfl | ⟨phase, events, appended, hNext⟩
  · exact hSteady
  · exact hNext.steady

/-- Other calls stay where they are. -/
theorem Moves.phase_of_ne (h : Moves calls w i w') {j : Nat} (hOther : j ≠ i) :
    w'.phase j = w.phase j := by
  rcases h.same_or_becomes with rfl | ⟨phase, events, appended, hNext⟩
  · rfl
  · exact hNext.phase_of_ne j hOther

/-- A call that has ended stays as it is. -/
theorem Moves.phase_of_ended (h : Moves calls w i w') {j : Nat}
    (hEnded : (w.phase j).result?.isSome = true) : w'.phase j = w.phase j := by
  by_cases hOther : j = i
  · subst hOther
    cases h with
    | stayed hSame => rw [hSame]
    | refused _ hPhase => rw [hPhase] at hEnded; cases hEnded
    | loaded _ _ hPhase => rw [hPhase] at hEnded; cases hEnded
    | rested _ _ hPhase => rw [hPhase] at hEnded; cases hEnded
    | lost _ _ _ hPhase => rw [hPhase] at hEnded; cases hEnded
    | won _ _ _ _ hWins => rw [hWins.phase] at hEnded; cases hEnded
  · exact h.phase_of_ne hOther

/-- What is modest after a turn was so before. -/
theorem Moves.isModest (h : Moves calls w i w') (hModest : w'.IsModest calls) :
    w.IsModest calls := by
  intro j happened p t hPhase
  have hSame := h.phase_of_ended (j := j) (by rw [hPhase]; rfl)
  exact hModest j happened p t (hSame.trans hPhase)

/-- What a call appends in a modest world it has worked out from the whole stream, and it gives a
template. -/
theorem Wins.plan_whole {happened now : Instant} {p : Pending} {e : TemplateEvent}
    (hWins : Wins calls w i w' happened now p e) (h : Traces calls w)
    (hModest : w'.IsModest calls) :
    (calls i).plan happened
        (EventStore.loaded (calls i).id (w.events.held (calls i).id)) = .ok p ∧
      ∃ t, p.aggregate.snapshot = .ok t := by
  obtain ⟨history, hHistory, hPlan⟩ := h.waiting hWins.phase
  obtain ⟨a, b, -, -, hTaken, hp⟩ := Call.plan_event hPlan hWins.event
  obtain ⟨t, hTemplate, -⟩ := Aggregate.snapshot_of_apply hTaken
  have hSnapshot : p.aggregate.snapshot = .ok t := by
    rw [hp]
    exact hTemplate
  have hFinished := hWins.next.phase_self
  rw [hSnapshot] at hFinished
  -- the version checked is no newer than the one loaded, and no older than the stream
  have hWhole : history = w.events.held (calls i).id :=
    Call.plan_whole hHistory hPlan hWins.event hWins.length (hModest i happened p t hFinished)
  exact ⟨hWhole ▸ hPlan, t, hSnapshot⟩

-- ---------------------------------------------------------------------------
-- Runs
-- ---------------------------------------------------------------------------

/-- The call whose turn it is can still be traced. -/
theorem Moves.traced_self (hMoves : Moves calls w i w') (h : Traces calls w) :
    Traced w'.events (calls i) (w'.phase i) := by
  have hGoesOn := hMoves.held_prefix (calls i).id
  -- what the call has seen stays a beginning of the stream
  cases hMoves with
  | stayed hSame =>
    rw [hSame]
    exact h.traced i
  | refused f _ hNext =>
    rw [hNext.phase_self]
    exact .refused f
  | loaded now p _ hPlan hNext =>
    rw [EventStore.load_eq] at hPlan
    rw [hNext.phase_self]
    exact .waiting hGoesOn hPlan
  | rested happened p hPhase hNothing hNext =>
    obtain ⟨history, hHistory, hPlan⟩ := h.waiting hPhase
    rw [hNext.phase_self]
    exact .finished (hHistory.trans hGoesOn) hPlan (.rested hNothing)
  | lost happened p f hPhase hNext =>
    obtain ⟨history, hHistory, hPlan⟩ := h.waiting hPhase
    rw [hNext.phase_self]
    exact .finished (hHistory.trans hGoesOn) hPlan (.lost f)
  | won happened now p e hWins =>
    obtain ⟨history, hHistory, hPlan⟩ := h.waiting hWins.phase
    rw [hWins.next.phase_self]
    refine .finished (hHistory.trans hGoesOn) hPlan
      (.won now w.events.lastSequence hWins.event hHistory hWins.length ?_)
    simp only [hWins.next.events, EventStore.held_grown_self, List.prefix_refl]

/-- **A turn keeps calls traced.** -/
theorem Traces.step (h : Traces calls w) (turn : Turn) : Traces calls (w.step calls turn) := by
  have hMoves := h.moves turn
  refine ⟨hMoves.steady h.steady, fun j => ?_⟩
  by_cases hTurn : j = turn.call
  · rw [hTurn]
    exact hMoves.traced_self h
  · rw [hMoves.phase_of_ne hTurn]
    exact (h.traced j).mono (hMoves.held_prefix (calls j).id)

/-- **Every schedule** keeps the trace. -/
theorem Traces.run (h : Traces calls w) (schedule : List Turn) :
    Traces calls (w.run calls schedule) := by
  induction schedule generalizing w with
  | nil => exact h
  | cons turn rest ih => exact ih (h.step turn)

/-- **Every call of a run can be traced.** -/
theorem traces_run (calls : Nat → Call) (s : EventStore) (schedule : List Turn) :
    Traces calls ((World.initial s).run calls schedule) :=
  (traces_initial calls s).run schedule

end Galley.Service
