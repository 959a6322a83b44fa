import Galley.Proofs.Projection.Busy
import Galley.Proofs.Projection.Interrupted

/-!
# Whole ticks as turns

What is shown of followers that share a log goes turn by turn, so that others may get in between and
a tick may be given up. A whole tick, with nobody in between, is the special case in which one
follower takes all turns. So whatever holds after any turns holds after whole ticks too.

Main results:

* `leads_stage`, `leads_stage_failed` — a stage of a tick is a turn or two.
* `leads_tick` — a whole tick is some turns of its follower.
-/

namespace Galley.Projection.World

/-- The world with other storage, and with a follower that has got somewhere else. -/
def withMember (w : World) (i : Nat) (b : Backend) (f : Follower) (phase : Phase) : World :=
  ⟨b, Function.update w.member i ⟨f, phase⟩⟩

/-- One world comes from another by turns of a follower. -/
def Leads (i : Nat) (now : Instant) (w w' : World) : Prop :=
  ∃ turns : List Turn, (∀ turn ∈ turns, turn = .begin i ∨ turn = .advance i now ∨
    turn = .abandon i) ∧ w.run turns = w'

variable {i : Nat} {now : Instant} {w w' w'' : World} {f g : Follower} {b b' : Backend}

theorem leads_self (w : World) : w.Leads i now w :=
  ⟨[], fun _ h => absurd h List.not_mem_nil, rfl⟩

theorem Leads.trans (h : w.Leads i now w') (h' : w'.Leads i now w'') : w.Leads i now w'' := by
  obtain ⟨turns, hTurns, rfl⟩ := h
  obtain ⟨turns', hTurns', rfl⟩ := h'
  refine ⟨turns ++ turns', fun turn hTurn => ?_, List.foldl_append⟩
  exact (List.mem_append.mp hTurn).elim (hTurns turn) (hTurns' turn)

theorem leads_step (w : World) (now : Instant) {turn : Turn}
    (hTurn : turn = .begin i ∨ turn = .advance i now ∨ turn = .abandon i) :
    w.Leads i now (w.step turn) :=
  ⟨[turn], fun other h => by rwa [List.mem_singleton.mp h], rfl⟩

/-- What a follower does at its turn takes the world further. -/
theorem leads_work (w : World) {phase next : Phase}
    (hWork : (phase.work now f).run b = (.ok (g, next), b')) :
    (w.withMember i b f phase).Leads i now (w.withMember i b' g next) := by
  have hStep := (w.withMember i b f phase).leads_step (i := i) now (.inr (.inl rfl))
  have hMember : (w.withMember i b f phase).member i = ⟨f, phase⟩ := Function.update_self _ _ _
  have hBackend : (w.withMember i b f phase).backend = b := rfl
  rw [World.step, World.advance, hMember, hBackend, hWork] at hStep
  simp only [World.withMember, Function.update_idem] at hStep ⊢
  exact hStep

/-- A follower that fails at its turn has done with its tick. -/
theorem leads_failed (w : World) {phase : Phase} {e : Failure}
    (hWork : (phase.work now f).run b = (.error e, b')) :
    (w.withMember i b f phase).Leads i now (w.withMember i b' f .idle) := by
  have hStep := (w.withMember i b f phase).leads_step (i := i) now (.inr (.inl rfl))
  have hMember : (w.withMember i b f phase).member i = ⟨f, phase⟩ := Function.update_self _ _ _
  have hBackend : (w.withMember i b f phase).backend = b := rfl
  rw [World.step, World.advance, hMember, hBackend, hWork] at hStep
  simp only [World.withPhase, World.withMember, Function.update_self, Function.update_idem]
    at hStep ⊢
  exact hStep

/-- A stage of a tick is a turn or two. -/
theorem leads_stage (w : World) {stage next : TickStage}
    (hRun : (Follower.step now f stage).run b = (.ok (g, next), b')) :
    (w.withMember i b f (.before stage)).Leads i now (w.withMember i b' g (.before next)) := by
  cases stage with
  | restoring => exact w.leads_work (run_before hRun)
  | reading catalog position folded => exact w.leads_work (run_before hRun)
  | saving catalog position folded =>
    rw [step_saving, Operation.run_bind] at hRun
    rcases hSave : (Operation.saveCheckpoint (f.checkpoint now catalog position)).run b with
      ⟨e | _, b₁⟩
    · rw [hSave] at hRun
      cases hRun
    · rw [hSave] at hRun
      have hStored : ((Phase.waiting (.saving catalog position folded)).work now f).run b =
          (.ok (f, .stored catalog position folded), b₁) := by
        rw [Phase.work, Operation.run_bind, hSave]
        rfl
      have hSettled : ((Phase.stored catalog position folded).work now f).run b₁ = _ :=
        run_before hRun
      exact (w.leads_work hStored).trans (w.leads_work hSettled)
  | done outcome =>
    cases hRun
    exact leads_self _

/-- A stage that fails ends the tick. -/
theorem leads_stage_failed (w : World) {stage : TickStage} {e : Failure}
    (hRun : (Follower.step now f stage).run b = (.error e, b')) :
    (w.withMember i b f (.before stage)).Leads i now (w.withMember i b' f .idle) := by
  cases stage with
  | restoring => exact w.leads_failed (run_before hRun)
  | reading catalog position folded => exact w.leads_failed (run_before hRun)
  | saving catalog position folded =>
    rw [step_saving, Operation.run_bind] at hRun
    rcases hSave : (Operation.saveCheckpoint (f.checkpoint now catalog position)).run b with
      ⟨e' | _, b₁⟩
    · rw [hSave] at hRun
      cases hRun
      have hFailed : ((Phase.waiting (.saving catalog position folded)).work now f).run b =
          (.error e, b') := by
        rw [Phase.work, Operation.run_bind, hSave]
      exact w.leads_failed hFailed
    · rw [hSave] at hRun
      cases hRun
  | done outcome => cases hRun

/-- How far a follower is when a tick has been prepared. -/
def prepared : Except Failure TickStage → Phase
  | .ok stage => .before stage
  | .error _ => .idle

/-- Restoring and reading are turns of the follower. -/
theorem leads_prepare (w : World) (fuel : Nat) {b : Backend} {f : Follower}
    {stage : TickStage} {result : Except Failure TickStage}
    (hRun : (Follower.prepare now fuel f stage).run b = ((result, g), b')) :
    (w.withMember i b f (.before stage)).Leads i now (w.withMember i b' g (prepared result)) := by
  induction fuel generalizing b f stage with
  | zero =>
    cases hRun
    exact leads_self _
  | succ fuel ih =>
    by_cases hRead : Follower.HasRead stage
    · rw [Follower.prepare_of_hasRead hRead] at hRun
      cases hRun
      exact leads_self _
    rw [Follower.prepare_succ hRead] at hRun
    rcases hStep : (Follower.step now f stage).run b with ⟨e | ⟨f₁, next⟩, b₁⟩
    · rw [Follower.run_then hStep] at hRun
      cases hRun
      exact w.leads_stage_failed hStep
    · rw [Follower.run_then hStep] at hRun
      exact (w.leads_stage hStep).trans (ih hRun)

/-- A follower can give up its tick wherever it is. -/
theorem leads_abandon (w : World) (now : Instant) (b : Backend) (f : Follower)
    (phase : Phase) : (w.withMember i b f phase).Leads i now (w.withMember i b f .idle) := by
  have hStep := (w.withMember i b f phase).leads_step (i := i) now (.inr (.inr rfl))
  simp only [World.step, World.withPhase, World.withMember, Function.update_self,
    Function.update_idem] at hStep ⊢
  exact hStep

/-- What comes after reading is turns of the follower, too. -/
theorem leads_finish (w : World) {stage : TickStage} {result : Except Failure TickOutcome}
    (hRun : (Follower.finish now f stage).run b = ((result, g), b')) :
    (w.withMember i b f (.before stage)).Leads i now (w.withMember i b' g .idle) := by
  rcases hStep : (Follower.step now f stage).run b with ⟨e | ⟨f₁, next⟩, b₁⟩
  · have hEnd : (Follower.finish now f stage).run b = ((.error e, f), b₁) :=
      Follower.run_then hStep
    cases hEnd.symm.trans hRun
    exact w.leads_stage_failed hStep
  · -- whatever the stage leads to, nothing is left to be done after it
    have hEnd : ∃ outcome, (Follower.finish now f stage).run b = ((.ok outcome, f₁), b₁) := by
      cases next with
      | done outcome => exact ⟨outcome, Follower.run_then hStep⟩
      | restoring => exact ⟨⟨0, f₁.runner.position⟩, Follower.run_then hStep⟩
      | reading catalog position folded =>
        exact ⟨⟨0, f₁.runner.position⟩, Follower.run_then hStep⟩
      | saving catalog position folded =>
        exact ⟨⟨0, f₁.runner.position⟩, Follower.run_then hStep⟩
    obtain ⟨outcome, hEnd⟩ := hEnd
    cases hEnd.symm.trans hRun
    exact (w.leads_stage hStep).trans (w.leads_abandon now _ _ (.before next))

/-- **A whole tick is some turns of its follower.** -/
theorem leads_tick (w : World) (hIdle : (w.member i).phase = .idle)
    {result : Except Failure TickOutcome}
    (hTick : (Follower.tick now (w.member i).follower).run w.backend = ((result, g), b')) :
    w.Leads i now (w.withMember i b' g .idle) := by
  have hBegin : w.Leads i now
      (w.withMember i w.backend (w.member i).follower (.before .restoring)) := by
    have hStep := w.leads_step (i := i) now (.inl rfl)
    rw [World.step, hIdle] at hStep
    exact hStep
  refine hBegin.trans ?_
  rcases hPrepare : (Follower.prepare now (Follower.stageBound w.backend.events.log.length)
    (w.member i).follower .restoring).run w.backend with ⟨⟨e | stage, f⟩, b⟩
  · have hRun : (Follower.tick now (w.member i).follower).run w.backend = ((.error e, f), b) := by
      rw [Follower.run_tick, Follower.tickFrom]
      exact Follower.run_then hPrepare
    cases hRun.symm.trans hTick
    exact w.leads_prepare _ hPrepare
  · have hRun : (Follower.tick now (w.member i).follower).run w.backend =
        (Follower.finish now f stage).run b := by
      rw [Follower.run_tick, Follower.tickFrom]
      exact Follower.run_then hPrepare
    exact (w.leads_prepare _ hPrepare).trans (w.leads_finish (hRun.symm.trans hTick))

end Galley.Projection.World
