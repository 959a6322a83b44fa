import Mathlib.Data.List.Induction
import Galley.Proofs.Service.Concurrent

/-!
# Calls under way at once act one after another

Nothing is locked while a call is between its two turns. Still, the calls that added to the log did
so as if they had come one after another, each with both turns in a row, in the order in which they
appended. The reason is the check of the version: a call that appends has worked out its event from
the whole stream, so had it started just then it would have worked out the same.

This needs that no update names a version above the one that it had loaded (`World.IsModest`).

Main results:

* `Serial.move` — a turn keeps the calls in order.
* `serial_run` — the calls of every schedule act one after another.
-/

namespace Galley.Service

/-- The calls that added to the log, in the order in which they did, with their clocks. -/
def World.order (calls : Nat → Call) (w : World) : List (Clock × Call) :=
  w.appended.map fun a => (a.2, calls a.1)

/-- The calls that added to the log. -/
def World.winners (w : World) : List Nat := w.appended.map Prod.fst

/-- A call that ends without adding to the log has failed, or it had nothing to add: it only reads,
or the template that it had loaded was archived already. -/
def World.EndsAlone (calls : Nat → Call) (w : World) (i : Nat) (result : Except Failure Template) :
    Prop :=
  (∃ f, result = .error f) ∨
    ∃ history a, history <+: w.events.held (calls i).id ∧
      Aggregate.replay (calls i).id history = .ok a ∧ (calls i).Rests a ∧ result = a.snapshot

/-- The calls that added to the log could have come one after another on the given events. -/
structure Serial (calls : Nat → Call) (s : EventStore) (w : World) : Prop where
  /-- The events are those of the serial run. -/
  events : (runAll (.ofEvents s) (w.order calls)).2.events = w.events
  /-- So are the results. -/
  results : (runAll (.ofEvents s) (w.order calls)).1.map some =
    w.winners.map fun i => (w.phase i).result?
  /-- Each of the calls gave a template. -/
  templates : ∀ i ∈ w.winners, ∃ t, (w.phase i).result? = some (.ok t)
  /-- Each of the calls is among them once. -/
  distinct : w.winners.Nodup
  /-- The other calls have ended alone, if they have ended. -/
  others : ∀ i result, i ∉ w.winners → (w.phase i).result? = some result →
    w.EndsAlone calls i result

variable {calls : Nat → Call} {s : EventStore} {w w' : World} {i : Nat}

theorem serial_initial (calls : Nat → Call) (s : EventStore) : Serial calls s (.initial s) where
  events := rfl
  results := rfl
  templates := fun _ h => nomatch h
  distinct := List.nodup_nil
  others := fun _ _ _ h => nomatch h

theorem World.EndsAlone.mono {result : Except Failure Template} (h : w.EndsAlone calls i result)
    (hGoesOn : w.events.held (calls i).id <+: w'.events.held (calls i).id) :
    w'.EndsAlone calls i result := by
  rcases h with hFailed | ⟨history, a, hHistory, hReplay, hRests, hResult⟩
  · exact .inl hFailed
  · exact .inr ⟨history, a, hHistory.trans hGoesOn, hReplay, hRests, hResult⟩

/-- A call with nothing to append ends alone. -/
theorem Traces.endsAlone (h : Traces calls w) {happened : Instant} {p : Pending}
    (hPhase : w.phase i = .waiting happened p) (hNothing : p.aggregate.uncommitted = []) :
    w.EndsAlone calls i p.aggregate.snapshot := by
  obtain ⟨history, hHistory, hPlan⟩ := h.waiting hPhase
  obtain ⟨hBase, hRests⟩ := Call.plan_nothing hPlan hNothing
  exact .inr ⟨history, p.aggregate, hHistory, Call.replay_of_rests hBase hRests, hRests, rfl⟩

/-- A turn that adds nothing to the log keeps the calls in order. -/
theorem Serial.quiet (h : Serial calls s w) (hMoves : Moves calls w i w')
    (hEvents : w'.events = w.events) (hAppended : w'.appended = w.appended)
    (hAlone : ∀ result, i ∉ w.winners → (w'.phase i).result? = some result →
      w'.EndsAlone calls i result) : Serial calls s w' := by
  have hOrder : w'.order calls = w.order calls := by rw [World.order, World.order, hAppended]
  have hWinners : w'.winners = w.winners := by rw [World.winners, World.winners, hAppended]
  have hResult : ∀ j ∈ w.winners, (w'.phase j).result? = (w.phase j).result? := by
    intro j hj
    -- a winner has ended, and who has ended does not move
    obtain ⟨t, hTemplate⟩ := h.templates j hj
    rw [hMoves.phase_of_ended (by rw [hTemplate]; rfl)]
  refine ⟨?_, ?_, ?_, ?_, ?_⟩
  · rw [hOrder, hEvents]
    exact h.events
  · rw [hOrder, hWinners, List.map_congr_left hResult]
    exact h.results
  · intro j hj
    rw [hWinners] at hj
    rw [hResult j hj]
    exact h.templates j hj
  · rw [hWinners]
    exact h.distinct
  · intro j result hj hEnded
    rw [hWinners] at hj
    by_cases hTurn : j = i
    · subst hTurn
      exact hAlone result hj hEnded
    · rw [hMoves.phase_of_ne hTurn] at hEnded
      exact (h.others j result hj hEnded).mono (hMoves.held_prefix _)

/-- A call that appends what it worked out from the whole stream does what it would do in one go. -/
theorem effect_of_whole {c : Call} {happened : Instant} {p : Pending} {e : TemplateEvent}
    (now : Instant)
    (hPlan : c.plan happened (w.events.load c.id) = .ok p)
    (hEvent : p.aggregate.uncommitted = [e])
    (hLength : (w.events.held c.id).length = p.expected) :
    c.effect ⟨happened, now⟩ w.events =
      (p.aggregate.snapshot, w.events.grown c.id
        (EventStore.number c.id now p.expected w.events.lastSequence [e.toNewEvent])) := by
  have hId : p.aggregate.id = c.id := by
    obtain ⟨a, hBase, hPlans⟩ := Call.plan_ok hPlan
    exact hPlans.id.trans (Call.base_ok hBase).1
  rw [Call.effect, hPlan]
  show p.effect now w.events = _
  rw [Pending.effect_event hEvent, hId, if_pos hLength]

/-- A turn that adds to the log comes next in the order. -/
theorem Serial.won (h : Serial calls s w) (hTraces : Traces calls w) {happened now : Instant}
    {p : Pending} {e : TemplateEvent} (hWins : Wins calls w i w' happened now p e)
    (hModest : w'.IsModest calls) : Serial calls s w' := by
  have hMoves := Moves.won happened now p e hWins
  have hNext := hWins.next
  -- what the call has worked out comes from the whole stream
  obtain ⟨hPlan, t, hSnapshot⟩ := hWins.plan_whole hTraces hModest
  rw [← EventStore.load_eq] at hPlan
  have hEffect := effect_of_whole now hPlan hWins.event hWins.length
  -- so the call could have come after the ones before, with both turns in a row
  obtain ⟨hResults, hAfter⟩ := runAll_snoc (Backend.isSteady_ofEvents s) (w.order calls)
    ⟨happened, now⟩ (calls i)
  rw [h.events, hEffect] at hResults hAfter
  have hOrder : w'.order calls = w.order calls ++ [(⟨happened, now⟩, calls i)] := by
    rw [World.order, hNext.appended, List.map_append]
    rfl
  have hWinners : w'.winners = w.winners ++ [i] := by
    rw [World.winners, hNext.appended, List.map_append]
    rfl
  have hNew : i ∉ w.winners := by
    intro hi
    obtain ⟨t, hEnded⟩ := h.templates i hi
    rw [hWins.phase] at hEnded
    cases hEnded
  have hKept : ∀ j ∈ w.winners, w'.phase j = w.phase j :=
    fun j hj => hMoves.phase_of_ne fun hj' => hNew (hj' ▸ hj)
  refine ⟨?_, ?_, ?_, ?_, ?_⟩
  · rw [hOrder, hNext.events]
    exact hAfter
  · have hSame : w.winners.map (fun j => (w'.phase j).result?) =
        w.winners.map fun j => (w.phase j).result? :=
      List.map_congr_left fun j hj => by rw [hKept j hj]
    rw [hOrder, hResults, hWinners, List.map_append, List.map_append, h.results, hSame, List.map,
      List.map, List.map, hNext.phase_self]
    rfl
  · intro j hj
    rw [hWinners] at hj
    rcases List.mem_append.mp hj with hj | hj
    · rw [hKept j hj]
      exact h.templates j hj
    · rw [List.mem_singleton.mp hj, hNext.phase_self, hSnapshot]
      exact ⟨t, rfl⟩
  · rw [hWinners]
    refine List.nodup_append.mpr ⟨h.distinct, List.pairwise_singleton _ i, ?_⟩
    intro j hj k hk hSame
    rw [List.mem_singleton.mp hk] at hSame
    exact hNew (hSame ▸ hj)
  · intro j result hj hEnded
    rw [hWinners, List.mem_append, not_or, List.mem_singleton] at hj
    rw [hMoves.phase_of_ne hj.2] at hEnded
    exact (h.others j result hj.1 hEnded).mono (hMoves.held_prefix _)

/-- **A turn keeps the calls in order.** -/
theorem Serial.move (h : Serial calls s w) (hTraces : Traces calls w) (hMoves : Moves calls w i w')
    (hModest : w'.IsModest calls) : Serial calls s w' := by
  -- only the winner of a turn changes the events; the others end alone or not at all
  cases hMoves with
  | stayed hSame => exact hSame ▸ h
  | refused f hPhase hNext =>
    refine h.quiet (.refused f hPhase hNext) hNext.events hNext.appended fun result _ hEnded => ?_
    rw [hNext.phase_self] at hEnded
    cases hEnded
    exact .inl ⟨f, rfl⟩
  | loaded now p hPhase hPlan hNext =>
    refine h.quiet (.loaded now p hPhase hPlan hNext) hNext.events hNext.appended
      fun result _ hEnded => ?_
    rw [hNext.phase_self] at hEnded
    cases hEnded
  | rested happened p hPhase hNothing hNext =>
    have hMoves : Moves calls w i w' := .rested happened p hPhase hNothing hNext
    refine h.quiet hMoves hNext.events hNext.appended fun result _ hEnded => ?_
    rw [hNext.phase_self] at hEnded
    cases hEnded
    exact (hTraces.endsAlone hPhase hNothing).mono (hMoves.held_prefix _)
  | lost happened p f hPhase hNext =>
    refine h.quiet (.lost happened p f hPhase hNext) hNext.events hNext.appended
      fun result _ hEnded => ?_
    rw [hNext.phase_self] at hEnded
    cases hEnded
    exact .inl ⟨f, rfl⟩
  | won happened now p e hWins => exact h.won hTraces hWins hModest

-- ---------------------------------------------------------------------------
-- Runs
-- ---------------------------------------------------------------------------

/-- The calls of a run act one after another. -/
theorem serial_run (calls : Nat → Call) (s : EventStore) (schedule : List Turn) :
    ((World.initial s).run calls schedule).IsModest calls →
      Serial calls s ((World.initial s).run calls schedule) := by
  induction schedule using List.reverseRecOn with
  | nil => exact fun _ => serial_initial calls s
  | append_singleton schedule turn ih =>
    intro hModest
    rw [World.run_append] at hModest ⊢
    have hTraces := traces_run calls s schedule
    have hMoves := hTraces.moves turn
    exact (ih (hMoves.isModest hModest)).move hTraces hMoves hModest

/-- The order of appends only ever goes on, and a turn of a call that has not appended by then
leaves the events alone. -/
theorem Moves.winners (h : Moves calls w i w') :
    w.winners <+: w'.winners ∧ (i ∉ w'.winners → w'.events = w.events) := by
  rcases h.quiet_or_wins with ⟨hEvents, hAppended⟩ | ⟨happened, now, p, e, hWins⟩
  · rw [World.winners, World.winners, hAppended]
    exact ⟨List.prefix_refl _, fun _ => hEvents⟩
  · rw [World.winners, World.winners, hWins.next.appended, List.map_append]
    exact ⟨List.prefix_append _ _, fun hNew => absurd (by simp) hNew⟩

/-- Winners are added behind those that there are. -/
theorem Traces.winners_run (h : Traces calls w) (schedule : List Turn) :
    w.winners <+: (w.run calls schedule).winners := by
  induction schedule generalizing w with
  | nil => exact List.prefix_refl _
  | cons turn rest ih => exact (h.moves turn).winners.1.trans (ih (h.step turn))

/-- A turn of a call that does not append in the whole run leaves the events alone. -/
theorem events_of_alone (calls : Nat → Call) (s : EventStore) (first rest : List Turn) (turn : Turn)
    (hAlone : turn.call ∉ ((World.initial s).run calls (first ++ turn :: rest)).winners) :
    ((World.initial s).run calls (first ++ [turn])).events =
      ((World.initial s).run calls first).events := by
  have hTraces := traces_run calls s first
  have hRest : ((World.initial s).run calls (first ++ turn :: rest)) =
      (((World.initial s).run calls first).step calls turn).run calls rest :=
    World.run_append calls _ first (turn :: rest)
  rw [hRest] at hAlone
  rw [World.run_append]
  refine (hTraces.moves turn).winners.2 fun hWon => hAlone ?_
  exact ((hTraces.step turn).winners_run rest).subset hWon

/-- **The calls of every schedule act one after another**, as long as no update that succeeds names
a version above the one that it had loaded: the events and the results of those that appended are
those of a serial run in the order of their appends, with the same clocks; the other calls have
failed or had nothing to append, and their turns leave the events alone. -/
theorem serializable (calls : Nat → Call) (s : EventStore) (schedule : List Turn)
    (hModest : ((World.initial s).run calls schedule).IsModest calls) :
    Serial calls s ((World.initial s).run calls schedule) ∧
      ∀ first turn rest, schedule = first ++ turn :: rest →
        turn.call ∉ ((World.initial s).run calls schedule).winners →
          ((World.initial s).run calls (first ++ [turn])).events =
            ((World.initial s).run calls first).events := by
  refine ⟨serial_run calls s schedule hModest, fun first turn rest hSchedule hAlone => ?_⟩
  rw [hSchedule] at hAlone
  exact events_of_alone calls s first rest turn hAlone

/-- A template is created, and two updates and an archiving start from its first version. -/
def racing : Nat → Call
  | 0 => .create default "a" "" .empty
  | 1 => .update default "b" "" .empty none
  | 2 => .update default "c" "" .empty (some 1)
  | _ => .archive default

/-- The second update comes first. -/
def race : List Turn :=
  [.start 0 default, .finish 0 default, .start 1 default, .start 2 default, .start 3 default,
    .finish 2 default, .finish 1 default, .finish 3 default]

theorem isModest_race : ((World.initial .empty).run racing race).IsModest racing := by
  have hLoaded : (((World.initial .empty).run racing race).phase 2).loadedVersion? = some 1 := by
    decide +kernel
  -- the run must not be unfolded any more
  generalize (World.initial .empty).run racing race = w at hLoaded ⊢
  intro i happened p t hPhase e hNamed
  rcases i with _ | _ | _ | i
  · cases hNamed
  · cases hNamed
  · cases hNamed
    rw [hPhase] at hLoaded
    exact Nat.le_of_eq (Option.some.inj hLoaded).symm
  · cases hNamed

theorem winners_race : ((World.initial .empty).run racing race).winners = [0, 2] := by
  decide +kernel

/-- The update that comes first wins the race, and the others leave the events alone. -/
theorem serializable_of_race :
    ((World.initial .empty).run racing race).IsModest racing ∧
      ((World.initial .empty).run racing race).winners = [0, 2] ∧
      Serial racing .empty ((World.initial .empty).run racing race) :=
  ⟨isModest_race, winners_race, (serializable racing .empty race isModest_race).1⟩

end Galley.Service
