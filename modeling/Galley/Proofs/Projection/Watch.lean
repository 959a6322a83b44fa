import Galley.Projection.Supervision
import Galley.Proofs.Api.Served
import Galley.Proofs.Projection.Busy

/-!
# Watching the log until told to stop

A follower ticks again and again. Between two ticks it waits for the end of an interval or for the
word to stop, and it asks for the word first. The word may come at any time, also between the two
questions and while a tick is under way; a tick that is under way goes on, and the word is heard
after it. Meanwhile others change storage in any way they like, and may put any store out of order.

`State.run` lets all this happen in any order. What a turn of the follower does is a stage of its
tick, so what comes of a tick is not assumed but worked out from storage. The results of the ticks
are written down as they come, and everything is then told from that list: how following the log
ended, how the read model is marked, and what the health check answers.

Main results:

* `Sound.move`, `sound_run` — what each move keeps, and what holds after any moves.
* `stays_run`, `begun_run_of_willStop` — after the end nothing happens, and after the word to stop
  no tick begins.
* `tellsHalted_iff` — the health check tells of the mark.
* `watch_run` — `Follower.watch` is one way for things to go.
* `watch_until_untrusted` — all of this, from any follower on.
-/

namespace Galley

-- ---------------------------------------------------------------------------
-- Ticks that nobody appends to
-- ---------------------------------------------------------------------------

namespace Follower

/-- A tick that nobody appends to touches neither the log nor the size of pages. -/
theorem Ends.keeps {now : Instant} {b b' : Backend} {f : Follower} {stage : TickStage}
    {events : List StoredEvent} {result : Ticked} {traffic : Traffic}
    (h : Ends now traffic b f stage events result b') (hAlone : traffic = []) :
    b'.events = b.events ∧ result.2.runner.batchSize = f.runner.batchSize := by
  induction h with
  | done => exact ⟨rfl, rfl⟩
  | @failed _ b _ f stage _ hStep =>
    subst hAlone
    obtain ⟨b'', hEvents, ⟨e, hRun⟩ | ⟨g, next, -, -, hRun⟩⟩ := run_step_or now f stage b
    · cases hStep.symm.trans hRun
      exact ⟨hEvents, rfl⟩
    · cases hStep.symm.trans hRun
  | @next _ b _ _ f _ stage _ _ _ _ hStep _ ih =>
    subst hAlone
    obtain ⟨hRest, hRestSize⟩ := ih rfl
    obtain ⟨b'', hEvents, ⟨e, hRun⟩ | ⟨g, next, -, hSize, hRun⟩⟩ := run_step_or now f stage b
    · cases hStep.symm.trans hRun
    · cases hStep.symm.trans hRun
      exact ⟨hRest.trans hEvents, hRestSize.trans hSize⟩

end Follower

namespace Watch

open Follower (Ending Ends fatal?)

-- ---------------------------------------------------------------------------
-- Moves
-- ---------------------------------------------------------------------------

/-- What a follower is about to do: to ask for the word to stop; to ask whether the interval is
over, when there was no word; the next stage of a tick; or nothing any more. -/
inductive Phase where
  | asking
  | resting
  | ticking (stage : TickStage)
  | ended (ending : Ending)

/-- The failure that following has ended with. -/
def Phase.failure? : Phase → Option Failure
  | ended (.failed e) => some e
  | _ => none

/-- How many ticks are under way. -/
def Phase.underWay : Phase → Nat
  | ticking _ => 1
  | _ => 0

/-- A follower, and storage. `cancelled` says that the word to stop has been given, `begun` how many
ticks have begun, and `results` what came of those that are over. -/
structure State where
  storage : Backend
  follower : Follower
  phase : Phase
  cancelled : Bool
  begun : Nat
  results : List (Except Failure TickOutcome)

/-- What may happen next. -/
inductive Move where
  /-- Others change storage. -/
  | others (change : Backend → Backend)
  /-- The word to stop is given. -/
  | cancel
  /-- The follower asks for the word, if it is about to. -/
  | ask
  /-- The follower asks whether the interval is over, if it is about to. -/
  | rest (due : Bool)
  /-- The tick under way takes a stage. -/
  | advance (now : Instant)

/-- A move of the follower, or the word to stop. -/
def Move.IsOwn : Move → Prop
  | others _ => False
  | _ => True

namespace State

/-- A follower that is about to start. -/
def start (b : Backend) (f : Follower) : State := ⟨b, f, .asking, false, 0, []⟩

/-- A tick is over. -/
def settle (s : State) (result : Except Failure TickOutcome) : State :=
  match fatal? result with
  | some e =>
    { s with
      follower := s.follower.halt e, phase := .ended (.failed e), results := s.results ++ [result] }
  | none => { s with phase := .asking, results := s.results ++ [result] }

/-- The tick under way takes a stage. -/
def advance (s : State) (now : Instant) (stage : TickStage) : State :=
  match (Follower.step now s.follower stage).run s.storage with
  | (.error e, b) => { s with storage := b }.settle (.error e)
  | (.ok (f, .done outcome), b) => { s with storage := b, follower := f }.settle (.ok outcome)
  | (.ok (f, next), b) => { s with storage := b, follower := f, phase := .ticking next }

/-- What becomes of a state. -/
def move (s : State) : Move → State
  | .others change => { s with storage := change s.storage }
  | .cancel => { s with cancelled := true }
  | .ask =>
    match s.phase with
    | .asking => { s with phase := if s.cancelled then .ended .stopped else .resting }
    | _ => s
  | .rest due =>
    match s.phase with
    | .resting =>
      if due then { s with phase := .ticking .restoring, begun := s.begun + 1 }
      else { s with phase := .asking }
    | _ => s
  | .advance now =>
    match s.phase with
    | .ticking stage => s.advance now stage
    | _ => s

/-- One move after another. -/
def run (s : State) (moves : List Move) : State := moves.foldl move s

/-- The first failure among the results that means that the log cannot be trusted. -/
def untrusted? (s : State) : Option Failure := s.results.findSome? fatal?

end State

-- ---------------------------------------------------------------------------
-- What every move keeps
-- ---------------------------------------------------------------------------

/-- What holds of a follower on its way, which began with a read model marked in a given way. -/
structure Sound (mark : Option Code) (s : State) : Prop where
  failed_iff : ∀ e, s.phase = .ended (.failed e) ↔ s.untrusted? = some e
  marked : s.follower.model.halted = (s.untrusted?.map Failure.code).or mark
  stopped : s.phase = .ended .stopped → s.cancelled = true
  counted : s.begun = s.results.length + s.phase.underWay

variable {mark : Option Code} {s : State}

theorem Phase.ne_failed {phase : Phase} (h : phase.failure? = none) (e : Failure) :
    phase ≠ .ended (.failed e) := by
  rintro rfl
  cases h

/-- As long as following has not failed, every result so far is one to go on from. -/
theorem Sound.untrusted?_eq_none (h : Sound mark s) (hGoing : ∀ e, s.phase ≠ .ended (.failed e)) :
    s.untrusted? = none := by
  cases hFirst : s.untrusted? with
  | none => rfl
  | some e => exact absurd ((h.failed_iff e).mpr hFirst) (hGoing e)

/-- A follower that has not failed goes on to something else. -/
theorem Sound.enter (h : Sound mark s) {phase next : Phase} {begun : Nat} (hPhase : s.phase = phase)
    (hGoing : phase.failure? = none) (hNext : next.failure? = none)
    (hStopped : next = .ended .stopped → s.cancelled = true)
    (hBegun : begun + phase.underWay = s.begun + next.underWay) :
    Sound mark { s with phase := next, begun := begun } where
  failed_iff e := by
    have hNone : State.untrusted? { s with phase := next, begun := begun } = none :=
      h.untrusted?_eq_none (Phase.ne_failed (hPhase ▸ hGoing))
    rw [hNone]
    exact ⟨fun hFailed => absurd hFailed (Phase.ne_failed hNext e), nofun⟩
  marked := h.marked
  stopped := hStopped
  counted := by
    have hCounted := h.counted
    rw [hPhase] at hCounted
    show begun = s.results.length + next.underWay
    omega

/-- **A tick that is over** ends the following if its result means that the log cannot be trusted,
and else leaves it to the next one. -/
theorem Sound.settle (h : Sound mark s) {stage : TickStage} (hTicking : s.phase = .ticking stage)
    (result : Except Failure TickOutcome) : Sound mark (s.settle result) := by
  have hGoing : s.phase.failure? = none := by
    rw [hTicking]
    rfl
  have hNone : s.results.findSome? fatal? = none := h.untrusted?_eq_none (Phase.ne_failed hGoing)
  have hMore : (s.results ++ [result]).findSome? fatal? = fatal? result := by
    rw [List.findSome?_append, hNone]
    simp
  have hMarked := h.marked
  rw [State.untrusted?, hNone] at hMarked
  have hCounted : s.begun = (s.results ++ [result]).length := by
    rw [List.length_append, h.counted, hTicking]
    rfl
  rw [State.settle]
  cases hFatal : fatal? result with
  | none =>
    rw [hFatal] at hMore
    refine ⟨fun e => ?_, ?_, nofun, hCounted⟩
    · rw [State.untrusted?, hMore]
      exact ⟨nofun, nofun⟩
    · rw [State.untrusted?, hMore]
      exact hMarked
  | some e =>
    rw [hFatal] at hMore
    refine ⟨fun e' => ?_, ?_, nofun, hCounted⟩
    · rw [State.untrusted?, hMore]
      exact ⟨fun hEnded => by cases hEnded; rfl, fun hFirst => by cases hFirst; rfl⟩
    · rw [State.untrusted?, hMore]
      rfl

/-- **A stage of a tick.** -/
theorem Sound.advance (h : Sound mark s) {stage : TickStage} (hTicking : s.phase = .ticking stage)
    (now : Instant) : Sound mark (s.advance now stage) := by
  rw [State.advance]
  obtain ⟨b', -, ⟨e, hStep⟩ | ⟨g, next, hHalted, -, hStep⟩⟩ :=
    Follower.run_step_or now s.follower stage s.storage
  · have hSame : Sound mark { s with storage := b' } :=
      ⟨h.failed_iff, h.marked, h.stopped, h.counted⟩
    rw [hStep]
    exact hSame.settle hTicking (.error e)
  · have hSame : Sound mark { s with storage := b', follower := g } :=
      ⟨h.failed_iff, hHalted.trans h.marked, h.stopped, h.counted⟩
    rw [hStep]
    cases next with
    | done outcome => exact hSame.settle hTicking (.ok outcome)
    | restoring | reading | saving => exact hSame.enter hTicking rfl rfl nofun rfl

/-- **Every move** keeps what holds. -/
theorem Sound.move (h : Sound mark s) (m : Move) : Sound mark (s.move m) := by
  cases m with
  | others change => exact ⟨h.failed_iff, h.marked, h.stopped, h.counted⟩
  | cancel => exact ⟨h.failed_iff, h.marked, fun _ => rfl, h.counted⟩
  | ask =>
    rw [State.move]
    split
    · next hAsking =>
      by_cases hWord : s.cancelled = true
      · rw [if_pos hWord]
        exact h.enter hAsking rfl rfl (fun _ => hWord) rfl
      · rw [if_neg hWord]
        exact h.enter hAsking rfl rfl nofun rfl
    · exact h
  | rest due =>
    rw [State.move]
    split
    · next hResting =>
      cases due with
      | true => exact h.enter hResting rfl rfl nofun rfl
      | false => exact h.enter hResting rfl rfl nofun rfl
    · exact h
  | advance now =>
    rw [State.move]
    split
    · next stage hTicking => exact h.advance hTicking now
    · exact h

/-- **What holds after any moves.** -/
theorem sound_run (b : Backend) (f : Follower) (moves : List Move) :
    Sound f.model.halted ((State.start b f).run moves) := by
  have hRun : ∀ s, Sound f.model.halted s → Sound f.model.halted (s.run moves) := by
    induction moves with
    | nil => exact fun _ hs => hs
    | cons m moves ih => exact fun s hs => ih (s.move m) (hs.move m)
  refine hRun _ ⟨fun e => ⟨nofun, nofun⟩, rfl, nofun, rfl⟩

-- ---------------------------------------------------------------------------
-- The end, and the word to stop
-- ---------------------------------------------------------------------------

/-- After the end the follower does nothing any more. -/
theorem stays_move {ending : Ending} (hEnded : s.phase = .ended ending) (m : Move) :
    ∃ b word, s.move m = { s with storage := b, cancelled := word } := by
  cases m with
  | others change => exact ⟨_, _, rfl⟩
  | cancel => exact ⟨_, _, rfl⟩
  | ask | rest | advance =>
    refine ⟨s.storage, s.cancelled, ?_⟩
    show s.move _ = s
    rw [State.move, hEnded]

/-- **After the end nothing happens.** -/
theorem stays_run {ending : Ending} (moves : List Move) :
    ∀ {s : State}, s.phase = .ended ending →
      ∃ b word, s.run moves = { s with storage := b, cancelled := word } := by
  induction moves with
  | nil => exact fun {s} _ => ⟨s.storage, s.cancelled, rfl⟩
  | cons m moves ih =>
    intro s hEnded
    obtain ⟨b, word, hMove⟩ := stays_move hEnded m
    obtain ⟨b', word', hRun⟩ :=
      ih (s := { s with storage := b, cancelled := word }) hEnded
    refine ⟨b', word', ?_⟩
    show (s.move m).run moves = _
    rw [hMove, hRun]

/-- A stage of a tick begins no other, and hears no word. -/
theorem advance_keeps (s : State) (now : Instant) (stage : TickStage) :
    (s.advance now stage).cancelled = s.cancelled ∧ (s.advance now stage).begun = s.begun ∧
      (s.advance now stage).phase ≠ .resting := by
  have hSettle : ∀ (s : State) result, (s.settle result).cancelled = s.cancelled ∧
      (s.settle result).begun = s.begun ∧ (s.settle result).phase ≠ .resting := by
    intro s result
    rw [State.settle]
    split
    · exact ⟨rfl, rfl, nofun⟩
    · exact ⟨rfl, rfl, nofun⟩
  rw [State.advance]
  split
  · exact hSettle _ _
  · exact hSettle _ _
  · exact ⟨rfl, rfl, nofun⟩

/-- The word to stop has been given, and the follower asks for it before it begins a tick. -/
structure State.WillStop (s : State) : Prop where
  cancelled : s.cancelled = true
  notResting : s.phase ≠ .resting

/-- Once the word to stop is given, no move begins another tick. -/
theorem State.WillStop.move (h : s.WillStop) (m : Move) :
    (s.move m).WillStop ∧ (s.move m).begun = s.begun := by
  cases m with
  | others change => exact ⟨⟨h.cancelled, h.notResting⟩, rfl⟩
  | cancel => exact ⟨⟨rfl, h.notResting⟩, rfl⟩
  | ask =>
    rw [State.move]
    split
    · rw [if_pos h.cancelled]
      exact ⟨⟨h.cancelled, nofun⟩, rfl⟩
    · exact ⟨h, rfl⟩
  | rest due =>
    rw [State.move]
    split
    · next hResting => exact absurd hResting h.notResting
    · exact ⟨h, rfl⟩
  | advance now =>
    rw [State.move]
    split
    · next stage _ =>
      obtain ⟨hCancelled, hBegun, hPhase⟩ := advance_keeps s now stage
      exact ⟨⟨hCancelled.trans h.cancelled, hPhase⟩, hBegun⟩
    · exact ⟨h, rfl⟩

/-- **After the word to stop no tick begins.** -/
theorem begun_run_of_willStop (moves : List Move) :
    ∀ {s : State}, s.WillStop → (s.run moves).begun = s.begun := by
  induction moves with
  | nil => exact fun _ => rfl
  | cons m moves ih =>
    intro s h
    obtain ⟨hMove, hBegun⟩ := h.move m
    exact (ih hMove).trans hBegun

end Watch

-- ---------------------------------------------------------------------------
-- The health check
-- ---------------------------------------------------------------------------

/-- A code is found by its name. -/
theorem Code.find?_wireName (c : Code) : all.find? (·.wireName = c.wireName) = some c := by
  cases c <;> decide

/-- Codes are told apart by their names on the wire. -/
theorem Code.wireName_inj {c c' : Code} (h : c.wireName = c'.wireName) : c = c' := by
  have hFound := find?_wireName c
  rw [h, find?_wireName c'] at hFound
  exact (Option.some.inj hFound).symm

/-- A request for the state of the program. -/
structure Request.IsHealthCheck (r : Request) : Prop where
  method : r.method = "GET"
  route : Route.ofPath? r.path = some .health

/-- A response says that the projection has halted with a code. -/
def Response.TellsHalted (response : Response) (c : Code) : Prop :=
  response.status = 503 ∧ ∃ fields, response.payload = .json (.object fields) ∧
    fields.lookup "projection" =
      some (.object [("status", .string "halted"), ("errorCode", .string c.wireName)])

namespace Server

variable {r : Request} {env : Surroundings}

/-- The answer to a health check. -/
theorem serve_health (h : r.IsHealthCheck) (server : Server) (env : Surroundings) (b : Backend) :
    ((server.serve env r).run b).1 = server.dressed env r (Handler.health env) := by
  have hOptions : r.method ≠ "OPTIONS" := by
    rw [h.method]
    decide
  have hMethod : r.method ∈ Route.health.methods := by
    rw [h.method]
    decide
  rw [serve, if_neg hOptions]
  simp only [h.route, serveRoute, if_pos hMethod]
  rfl

/-- **The health check tells of the mark.** -/
theorem tellsHalted_iff (h : r.IsHealthCheck) (server : Server) (b : Backend) (c : Code) :
    ((server.serve env r).run b).1.TellsHalted c ↔ env.model.halted = some c := by
  have hHead : r.method ≠ "HEAD" := by
    rw [h.method]
    decide
  rw [serve_health h, Response.TellsHalted, dressed_status, dressed_payload server env r hHead,
    Handler.health]
  cases env.model.halted with
  | none => exact ⟨fun ⟨hStatus, _⟩ => absurd (show 200 = 503 from hStatus) (by decide), nofun⟩
  | some held =>
    constructor
    · rintro ⟨-, fields, hPayload, hProjection⟩
      cases hPayload
      have hNames : some (Json.object [("status", .string "halted"),
          ("errorCode", .string held.wireName)]) = some (.object [("status", .string "halted"),
          ("errorCode", .string c.wireName)]) := hProjection
      simp only [Option.some.injEq, Json.object.injEq, List.cons.injEq, Prod.mk.injEq,
        Json.string.injEq, true_and, and_true] at hNames
      rw [Code.wireName_inj hNames]
    · rintro ⟨⟩
      exact ⟨rfl, _, rfl, rfl⟩

/-- Without a mark it says that all is well. -/
theorem serve_health_unmarked (h : r.IsHealthCheck) (server : Server) (b : Backend)
    (hUnmarked : env.model.halted = none) : ((server.serve env r).run b).1.status = 200 := by
  rw [serve_health h, dressed_status, Handler.health, hUnmarked]
  rfl

end Server

namespace Watch

variable {s : State} {b b' : Backend} {f : Follower} {now : Instant}

open Follower (Ending Ends fatal? Ticked Traffic)

-- ---------------------------------------------------------------------------
-- Following alone
-- ---------------------------------------------------------------------------

theorem run_append (s : State) (first more : List Move) :
    s.run (first ++ more) = (s.run first).run more := List.foldl_append

/-- A tick goes on to a stage that is not the last. -/
theorem advance_next {g : Follower} {stage next : TickStage}
    (hStep : (Follower.step now s.follower stage).run s.storage = (.ok (g, next), b'))
    (hGoing : ∀ outcome, next ≠ .done outcome) :
    s.advance now stage = { s with storage := b', follower := g, phase := .ticking next } := by
  rw [State.advance, hStep]
  cases next with
  | done outcome => exact absurd rfl (hGoing outcome)
  | restoring | reading | saving => rfl

/-- What a tick leaves behind does not depend on the stage that it stood at. -/
theorem settle_phase (s : State) (phase : Phase) (result : Except Failure TickOutcome) :
    State.settle { s with phase := phase } result = s.settle result := by
  rw [State.settle, State.settle]

/-- **A tick that nobody appends to** is taken stage after stage. -/
theorem run_ends {traffic : Traffic} {stage : TickStage} {events : List StoredEvent}
    {result : Ticked} (h : Ends now traffic b f stage events result b') (hAlone : traffic = [])
    (hGoing : ∀ outcome, stage ≠ .done outcome) (s : State) :
    ∃ moves, (∀ m ∈ moves, Move.IsOwn m) ∧
      State.run { s with storage := b, follower := f, phase := .ticking stage } moves =
        State.settle { s with storage := b', follower := result.2 } result.1 := by
  have hAdvance : ∀ m ∈ [Move.advance now], m.IsOwn := by
    intro m hm
    rw [List.mem_singleton.mp hm]
    trivial
  -- one move of the follower for each stage
  induction h generalizing s with
  | done => exact absurd rfl (hGoing _)
  | @failed _ b b' f stage e hStep =>
    subst hAlone
    have hStep : (Follower.step now f stage).run b = (.error e, b') := hStep
    refine ⟨[.advance now], hAdvance, ?_⟩
    show State.advance _ now stage = _
    rw [State.advance]
    simp only [hStep]
    exact settle_phase { s with storage := b', follower := f } _ _
  | @next _ b b' b'' f g stage next _ result _ hStep hRest ih =>
    subst hAlone
    have hStep : (Follower.step now f stage).run b = (.ok (g, next), b') := hStep
    by_cases hOver : ∃ outcome, next = .done outcome
    · obtain ⟨outcome, rfl⟩ := hOver
      cases hRest with
      | failed hDone => cases hDone
      | next hNot => exact absurd rfl (hNot outcome)
      | done =>
        refine ⟨[.advance now], hAdvance, ?_⟩
        show State.advance _ now stage = _
        rw [State.advance]
        simp only [hStep]
        exact settle_phase { s with storage := b', follower := g } _ _
    · have hNext : ∀ outcome, next ≠ .done outcome := fun outcome hDone => hOver ⟨outcome, hDone⟩
      obtain ⟨moves, hOwn, hMoves⟩ := ih rfl hNext s
      refine ⟨[.advance now] ++ moves, List.forall_mem_append.mpr ⟨hAdvance, hOwn⟩, ?_⟩
      show (State.advance _ now stage).run moves = _
      rw [advance_next hStep hNext]
      exact hMoves

/-- A tick begins, and nothing happens but its stages. -/
theorem run_tick (hSize : 1 ≤ s.follower.runner.batchSize)
    (hOrder : Log.InOrder s.storage.events.log) (hPhase : s.phase = .asking)
    (hWord : s.cancelled = false) {result : Ticked}
    (hTick : (Follower.tick now s.follower).run s.storage = (result, b')) :
    b'.events = s.storage.events ∧ result.2.runner.batchSize = s.follower.runner.batchSize ∧
      ∃ moves, (∀ m ∈ moves, Move.IsOwn m) ∧ s.run moves =
        State.settle { s with storage := b', follower := result.2, begun := s.begun + 1 }
          result.1 := by
  obtain ⟨events, hEnds⟩ := (Follower.run_tick_iff hSize hOrder result).mp hTick
  obtain ⟨hEvents, hSame⟩ := hEnds.keeps rfl
  obtain ⟨moves, hOwn, hMoves⟩ := run_ends hEnds rfl nofun { s with begun := s.begun + 1 }
  refine ⟨hEvents, hSame, .ask :: .rest true :: moves, ?_, ?_⟩
  · rw [List.forall_mem_cons, List.forall_mem_cons]
    exact ⟨trivial, trivial, hOwn⟩
  show ((s.move .ask).move (.rest true)).run moves = _
  have hAsk : s.move .ask = { s with phase := .resting } := by
    rw [State.move, hPhase]
    simp only [hWord, Bool.false_eq_true, if_false]
  rw [hAsk]
  exact hMoves

/-- A follower that watches alone goes one of the ways in which things can go. -/
theorem watch_run (now : Instant) (turns : Nat) :
    ∀ {s : State}, 1 ≤ s.follower.runner.batchSize → Log.InOrder s.storage.events.log →
      s.phase = .asking → s.cancelled = false →
        ∃ moves ending, (∀ m ∈ moves, Move.IsOwn m) ∧ (s.run moves).phase = .ended ending ∧
          (Follower.watch now turns s.follower).run s.storage =
            ((ending, (s.run moves).follower), (s.run moves).storage) ∧
          (ending = .stopped → (s.run moves).begun = s.begun + turns) := by
  induction turns with
  | zero =>
    intro s hSize hOrder hPhase hWord
    refine ⟨[.cancel, .ask], .stopped, ?_, ?_⟩
    · rw [List.forall_mem_cons, List.forall_mem_singleton]
      exact ⟨trivial, trivial⟩
    have hRun : s.run [.cancel, .ask] = { s with phase := .ended .stopped, cancelled := true } := by
      show (s.move .cancel).move .ask = _
      rw [State.move, State.move, hPhase]
      rfl
    rw [hRun]
    exact ⟨rfl, rfl, fun _ => rfl⟩
  | succ turns ih =>
    intro s hSize hOrder hPhase hWord
    rcases hTick : (Follower.tick now s.follower).run s.storage with ⟨⟨result, g⟩, b'⟩
    obtain ⟨hEvents, hSame, first, hOwn, hFirst⟩ := run_tick hSize hOrder hPhase hWord hTick
    rw [Follower.watch, Follower.run_then hTick]
    -- unless the tick has failed for good, the moves of the other turns come behind its own
    have hGoOn : fatal? result = none → ∃ moves ending, (∀ m ∈ moves, Move.IsOwn m) ∧
        (s.run moves).phase = .ended ending ∧
        (Follower.watch now turns g).run b' =
          ((ending, (s.run moves).follower), (s.run moves).storage) ∧
        (ending = .stopped → (s.run moves).begun = s.begun + (turns + 1)) := by
      intro hFatal
      rw [State.settle, hFatal] at hFirst
      rw [← hEvents] at hOrder
      obtain ⟨more, ending, hMore, hEnded, hWatch, hBegun⟩ := ih
        (s := { s with
          storage := b', follower := g, phase := .asking, begun := s.begun + 1,
          results := s.results ++ [result] })
        (hSame.symm ▸ hSize) hOrder rfl hWord
      refine ⟨first ++ more, ending, List.forall_mem_append.mpr ⟨hOwn, hMore⟩, ?_⟩
      rw [run_append, hFirst]
      refine ⟨hEnded, hWatch, fun hStopped => ?_⟩
      rw [hBegun hStopped]
      show s.begun + 1 + turns = _
      omega
    cases result with
    | ok outcome => exact hGoOn rfl
    | error e =>
      simp only
      by_cases hIntegrity : e.code.isIntegrity = true
      · have hFatal : fatal? (.error e) = some e := by rw [fatal?, if_pos hIntegrity]
        rw [State.settle, hFatal] at hFirst
        rw [if_pos hIntegrity]
        refine ⟨first, .failed e, hOwn, ?_⟩
        rw [hFirst]
        exact ⟨rfl, rfl, nofun⟩
      · rw [if_neg hIntegrity]
        exact hGoOn (by rw [fatal?, if_neg hIntegrity])

-- ---------------------------------------------------------------------------
-- Following the log
-- ---------------------------------------------------------------------------

/-- **Following the log.** A follower starts, and things happen in any order: others change storage,
the word to stop is given, and the follower takes its turns. At any time it has failed exactly if
some result so far means that the log cannot be trusted, and then with the first of these; then and
only then it has marked the read model, with the code of that failure; and it has stopped only on
the word (`Sound`). After the end nothing happens, and no tick begins after the word, unless the
follower had asked for it just before. If the read model was not marked at first, the health check
says that the projection has halted, and with which code, exactly if following has failed with it.

On a log in order, with nobody else about, `Follower.watch` is one of the ways in which all this can
go. -/
theorem watch_until_untrusted (b : Backend) (f : Follower) :
    (∀ moves, let s := (State.start b f).run moves
      Sound f.model.halted s ∧
      (∀ ending, s.phase = .ended ending → ∀ more, (s.run more).phase = .ended ending ∧
        (s.run more).follower = s.follower ∧ (s.run more).begun = s.begun) ∧
      (s.WillStop → ∀ more, (s.run more).begun = s.begun) ∧
      (f.model.halted = none → ∀ (server : Server) env (r : Request) storage, r.IsHealthCheck →
        env.model = s.follower.model →
          let response := ((server.serve env r).run storage).1
          (∀ c, response.TellsHalted c ↔ ∃ e, s.phase = .ended (.failed e) ∧ e.code = c) ∧
          ((∀ e, s.phase ≠ .ended (.failed e)) → response.status = 200))) ∧
    (1 ≤ f.runner.batchSize → Log.InOrder b.events.log → ∀ now turns, ∃ moves ending,
      let s := (State.start b f).run moves
      (∀ m ∈ moves, Move.IsOwn m) ∧ s.phase = .ended ending ∧
        (Follower.watch now turns f).run b = ((ending, s.follower), s.storage) ∧
        (ending = .stopped → s.begun = turns)) := by
  constructor
  · intro moves s
    have hSound : Sound f.model.halted s := sound_run b f moves
    refine ⟨hSound, fun ending hEnded more => ?_, fun hStop more => ?_, ?_⟩
    · obtain ⟨b', word, hRun⟩ := stays_run more hEnded
      rw [hRun]
      exact ⟨hEnded, rfl, rfl⟩
    · exact begun_run_of_willStop more hStop
    · intro hUnmarked server env r storage hCheck hModel response
      have hMarked := hSound.marked
      rw [hUnmarked, Option.or_none, ← hModel] at hMarked
      refine ⟨fun c => ?_, fun hGoing => ?_⟩
      · rw [Server.tellsHalted_iff hCheck, hMarked, Option.map_eq_some_iff]
        exact exists_congr fun e => and_congr_left' (hSound.failed_iff e).symm
      · rw [hSound.untrusted?_eq_none hGoing] at hMarked
        exact Server.serve_health_unmarked hCheck server storage hMarked
  · intro hSize hOrder now turns
    obtain ⟨moves, ending, hOwn, hEnded, hWatch, hBegun⟩ :=
      watch_run now turns (s := .start b f) hSize hOrder rfl rfl
    refine ⟨moves, ending, hOwn, hEnded, hWatch, fun hStopped => ?_⟩
    rw [hBegun hStopped]
    exact Nat.zero_add turns

/-- A store is out of order at first. Then the follower reads the log, and the word to stop comes
while it does so. -/
def stumbling : List Move :=
  [.others fun b => b.withOutages .loadCheckpoint [some (.outage .databaseError "gone")],
    .ask, .rest true, .advance default, .ask, .rest true, .advance default, .cancel,
    .advance default]

/-- A new follower of a log that holds a record of a kind that nobody knows. -/
def tornStart : State := .start (.ofEvents Server.tornEvents) ⟨.new "list" 2, .empty⟩

/-- A follower goes on after a store was out of order. It fails at a record of a kind that nobody
knows, though the word to stop has come before, and the health check tells of it. -/
theorem watch_until_untrusted_of_torn :
    (tornStart.run stumbling).phase = .ended (.failed (.unknownKind "TemplateShredded")) ∧
      (tornStart.run stumbling).begun = 2 ∧ (tornStart.run stumbling).cancelled = true ∧
      (tornStart.run stumbling).untrusted? = some (.unknownKind "TemplateShredded") ∧
      ((Server.serve ⟨[]⟩
        { Server.bareSurroundings default with model := (tornStart.run stumbling).follower.model }
        ⟨"GET", "/api/health", [], ""⟩).run default).1.TellsHalted .unknownEventKind ∧
      ∃ moves ending, (tornStart.run moves).phase = .ended ending ∧
        (Follower.watch default 2 tornStart.follower).run tornStart.storage =
          ((ending, (tornStart.run moves).follower), (tornStart.run moves).storage) := by
  obtain ⟨hRuns, hWatch⟩ :=
    watch_until_untrusted (.ofEvents Server.tornEvents) ⟨.new "list" 2, .empty⟩
  obtain ⟨hSound, -, -, hHealth⟩ := hRuns stumbling
  have hEnded : (tornStart.run stumbling).phase =
      .ended (.failed (.unknownKind "TemplateShredded")) := rfl
  have hCheck : Request.IsHealthCheck ⟨"GET", "/api/health", [], ""⟩ := ⟨rfl, by decide +kernel⟩
  refine ⟨hEnded, rfl, rfl, (hSound.failed_iff _).mp hEnded, ?_, ?_⟩
  · obtain ⟨hTells, -⟩ := hHealth rfl ⟨[]⟩
      { Server.bareSurroundings default with model := (tornStart.run stumbling).follower.model } _
      default hCheck rfl
    exact (hTells _).mpr ⟨_, hEnded, rfl⟩
  · have hOrder : Log.InOrder Server.tornEvents.log := List.pairwise_singleton _ _
    obtain ⟨moves, ending, -, hPhase, hRun, -⟩ := hWatch (by decide) hOrder default 2
    exact ⟨moves, ending, hPhase, hRun⟩

end Watch

end Galley
