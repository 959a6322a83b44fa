import Galley.Proofs.Storage.Steady

/-!
# Calls that may be out of order

A call of a store that is out of order fails before it does anything. So a call on any storage, with
whatever outages planned, does what the store does, or it fails and leaves the stores as they were.
It fails only where an outage was planned, and nothing plans one.

Main results:

* `Operation.run_loadCheckpoint_or`, `run_loadSince_or`, `run_saveCheckpoint_or` — the calls that a
  tick makes.
-/

namespace Galley

/-- Storage with the same events and checkpoints, and with no new outages. -/
structure Backend.SameStores (b b' : Backend) : Prop where
  events : b'.events = b.events
  checkpoints : b'.checkpoints = b.checkpoints
  steady : b.IsSteady → b'.IsSteady

theorem Backend.SameStores.trans {b b' b'' : Backend} (h : b.SameStores b')
    (h' : b'.SameStores b'') : b.SameStores b'' :=
  ⟨h'.events.trans h.events, h'.checkpoints.trans h.checkpoints, fun hb => h'.steady (h.steady hb)⟩

theorem Backend.Agrees.sameStores {b b' : Backend} (h : b.Agrees b') : b.SameStores b' :=
  ⟨h.events, h.checkpoints, h.isSteady⟩

namespace Operation

/-- A call is let through or fails, and the stores are as they were. -/
theorem run_reach_or (call : StoreCall) (b : Backend) :
    ∃ b', b.SameStores b' ∧
      ((reach call).run b = (.ok (), b') ∨
        ¬ b.IsSteady ∧ ∃ e, (reach call).run b = (.error e, b')) := by
  rw [reach, run_bind, run_get]
  rcases hPlan : b.outages call with _ | ⟨outage, rest⟩
  · simp only [hPlan]
    exact ⟨b, ⟨rfl, rfl, id⟩, .inl rfl⟩
  · have hUnsteady : ¬ b.IsSteady := by
      intro hb
      cases hPlan.symm.trans (hb call)
    simp only [hPlan]
    rw [run_bind, run_set]
    cases outage with
    | none =>
      exact ⟨b.withOutages call rest, ⟨rfl, rfl, fun hb => absurd hb hUnsteady⟩, .inl rfl⟩
    | some e =>
      exact ⟨(b.withOutages call rest).count (.failures e.code) 1,
        ⟨rfl, rfl, fun hb => absurd hb hUnsteady⟩, .inr ⟨hUnsteady, e, rfl⟩⟩

/-- A checkpoint is loaded, unless storage is out. -/
theorem run_loadCheckpoint_or (name : String) (b : Backend) :
    ∃ b', b.SameStores b' ∧
      ((loadCheckpoint name).run b = (.ok (b.checkpoints.load name), b') ∨
        ¬ b.IsSteady ∧ ∃ e, (loadCheckpoint name).run b = (.error e, b')) := by
  obtain ⟨b', hSame, hReach | ⟨hUnsteady, e, hReach⟩⟩ := run_reach_or .loadCheckpoint b
  · refine ⟨b', hSame, .inl ?_⟩
    rw [loadCheckpoint, run_bind, hReach, ← hSame.checkpoints]
    rfl
  · exact ⟨b', hSame, .inr ⟨hUnsteady, e, by rw [loadCheckpoint, run_bind, hReach]⟩⟩

/-- A page is read, unless storage is out. -/
theorem run_loadSince_or (position limit : Nat) (b : Backend) :
    ∃ b', b.SameStores b' ∧
      ((loadSince position limit).run b = (.ok (b.events.loadSince position limit), b') ∨
        ¬ b.IsSteady ∧ ∃ e, (loadSince position limit).run b = (.error e, b')) := by
  obtain ⟨b', ⟨hEvents, hCheckpoints, hSteady⟩, hReach⟩ :=
    run_reach_or .loadSince { b with pageReads := b.pageReads + 1 }
  have hEvents : b'.events = b.events := hEvents
  refine ⟨b', ⟨hEvents, hCheckpoints, hSteady⟩, ?_⟩
  rw [loadSince, run_bind, run_modify]
  simp only
  obtain hReach | ⟨hUnsteady, e, hReach⟩ := hReach
  · left
    rw [run_bind, hReach, ← hEvents]
    rfl
  · right
    exact ⟨hUnsteady, e, by rw [run_bind, hReach]⟩

/-- A checkpoint is saved, unless storage is out; then the checkpoints are as before. -/
theorem run_saveCheckpoint_or (c : Checkpoint) (b : Backend) :
    ∃ b', b'.events = b.events ∧
      ((b'.checkpoints = b.checkpoints.save c ∧ (saveCheckpoint c).run b = (.ok (), b')) ∨
        (b'.checkpoints = b.checkpoints ∧ ¬ b.IsSteady ∧
          ∃ e, (saveCheckpoint c).run b = (.error e, b'))) := by
  obtain ⟨b', hSame, hReach | ⟨hUnsteady, e, hReach⟩⟩ := run_reach_or .saveCheckpoint b
  · refine ⟨{ b' with checkpoints := b'.checkpoints.save c }, hSame.events, .inl ⟨?_, ?_⟩⟩
    · rw [hSame.checkpoints]
    · rw [saveCheckpoint, run_bind, hReach]
      rfl
  · refine ⟨b', hSame.events, .inr ⟨hSame.checkpoints, hUnsteady, e, ?_⟩⟩
    rw [saveCheckpoint, run_bind, hReach]

end Operation

end Galley
