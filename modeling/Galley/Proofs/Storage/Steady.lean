import Galley.Proofs.Storage.Operation

/-!
# Steady storage, call by call

As long as no outage is planned, a call of a store does what the store does, and beyond that changes
nothing but what is counted. What is counted does not matter to whoever works on storage, so most
results here hold up to that: two storages *agree* when they differ at most in their counts.

Main results:

* `CheckpointStore.load_save` — what a saved checkpoint changes.
* `Operation.run_append` — an append changes the events and nothing else.
* `Operation.run_loadCheckpoint`, `run_loadSince`, `run_saveCheckpoint` — the calls that followers
  of the log make.
-/

namespace Galley

-- ---------------------------------------------------------------------------
-- Checkpoints
-- ---------------------------------------------------------------------------

namespace CheckpointStore

/-- A checkpoint is found under the first entry of its name. -/
theorem load_cons (entry : String × Checkpoint) (rest : List (String × Checkpoint))
    (name : String) :
    (⟨entry :: rest⟩ : CheckpointStore).load name =
      if name = entry.1 then some entry.2 else (⟨rest⟩ : CheckpointStore).load name := by
  rw [load, List.lookup_cons]
  by_cases h : name = entry.1
  · rw [if_pos h, beq_iff_eq.mpr h]
  · rw [if_neg h, beq_eq_false_iff_ne.mpr h, load]

/-- **What a saved checkpoint changes**: it is the one of its name from then on. -/
theorem load_save (s : CheckpointStore) (c : Checkpoint) (name : String) :
    (s.save c).load name = if name = c.name then some c else s.load name := by
  obtain ⟨entries⟩ := s
  rw [save]
  induction entries with
  | nil => exact load_cons _ _ _
  | cons entry rest ih =>
    obtain ⟨other, held⟩ := entry
    rw [Json.insertMember]
    split
    · exact load_cons _ _ _
    split
    · next hSame =>
      rw [load_cons, load_cons, hSame]
      split <;> rfl
    · next hNe =>
      rw [load_cons, load_cons, ih]
      by_cases hOther : name = other
      · rw [if_pos hOther, if_pos hOther, if_neg (hOther ▸ Ne.symm hNe)]
      · rw [if_neg hOther, if_neg hOther]

end CheckpointStore

-- ---------------------------------------------------------------------------
-- Counting
-- ---------------------------------------------------------------------------

/-- Storage that differs at most in what has been counted. -/
structure Backend.Agrees (b b' : Backend) : Prop where
  events : b'.events = b.events
  checkpoints : b'.checkpoints = b.checkpoints
  outages : b'.outages = b.outages

namespace Backend

variable {b b' b'' : Backend}

theorem Agrees.refl (b : Backend) : b.Agrees b := ⟨rfl, rfl, rfl⟩

theorem Agrees.trans (h : b.Agrees b') (h' : b'.Agrees b'') : b.Agrees b'' :=
  ⟨h'.events.trans h.events, h'.checkpoints.trans h.checkpoints, h'.outages.trans h.outages⟩

/-- Storage that is steady stays so whatever is counted. -/
theorem Agrees.isSteady (h : b.Agrees b') (hb : b.IsSteady) : b'.IsSteady := by
  intro call
  rw [h.outages]
  exact hb call

/-- Counting touches nothing that is stored. -/
theorem agrees_count (b : Backend) (m : Measure) (n : Nat) : b.Agrees (b.count m n) :=
  ⟨rfl, rfl, rfl⟩

end Backend

-- ---------------------------------------------------------------------------
-- Calls
-- ---------------------------------------------------------------------------

namespace Operation

variable {b : Backend}

theorem run_get (b : Backend) : (get : Operation Backend).run b = (.ok b, b) := rfl

theorem run_set (b b' : Backend) : (set b' : Operation PUnit).run b = (.ok ⟨⟩, b') := rfl

theorem run_modify (f : Backend → Backend) (b : Backend) :
    (modify f : Operation PUnit).run b = (.ok ⟨⟩, f b) := rfl

/-- On steady storage every call is let through. -/
theorem run_reach (hb : b.IsSteady) (call : StoreCall) : (reach call).run b = (.ok (), b) := by
  rw [reach, run_bind, run_get]
  simp only [hb call]
  rfl

/-- Steady storage gives the checkpoint that it holds. -/
theorem run_loadCheckpoint (hb : b.IsSteady) (name : String) :
    (loadCheckpoint name).run b = (.ok (b.checkpoints.load name), b) := by
  rw [loadCheckpoint, run_bind, run_reach hb]
  rfl

/-- Steady storage gives the page, and counts that it was asked for one. -/
theorem run_loadSince (hb : b.IsSteady) (position limit : Nat) :
    (loadSince position limit).run b =
      (.ok (b.events.loadSince position limit), { b with pageReads := b.pageReads + 1 }) := by
  have hRead : ({ b with pageReads := b.pageReads + 1 } : Backend).IsSteady := hb
  rw [loadSince, run_bind, run_modify]
  simp only
  rw [run_bind, run_reach hRead]
  rfl

/-- Steady storage saves the checkpoint. -/
theorem run_saveCheckpoint (hb : b.IsSteady) (c : Checkpoint) :
    (saveCheckpoint c).run b = (.ok (), { b with checkpoints := b.checkpoints.save c }) := by
  rw [saveCheckpoint, run_bind, run_reach hb]
  rfl

/-- Counting the events of a batch by kind touches nothing that is stored. -/
theorem run_countKinds (batch : List NewEvent) :
    ∀ b : Backend, ∃ b', (countKinds batch).run b = (.ok (), b') ∧ b.Agrees b' := by
  induction batch with
  | nil => exact fun b => ⟨b, rfl, .refl b⟩
  | cons e batch ih =>
    intro b
    obtain ⟨b', hRun, hAgrees⟩ := ih (b.count (.appended e.kind) 1)
    exact ⟨b', hRun, (b.agrees_count _ _).trans hAgrees⟩

/-- **An append changes the events and nothing else**, up to what is counted. -/
theorem run_append (hb : b.IsSteady) (now : Instant) (id : Uuid) (expected : Nat)
    (batch : List NewEvent) :
    ∃ b', (append now id expected batch).run b =
        ((b.events.append now id expected batch).1, b') ∧
      Backend.Agrees { b with events := (b.events.append now id expected batch).2 } b' := by
  rw [append, run_bind, run_reach hb]
  simp only
  rw [run_bind, run_get]
  rcases hAppend : b.events.append now id expected batch with ⟨f | version, s⟩
  · simp only [hAppend]
    rw [run_bind, run_set]
    simp only
    split
    · exact ⟨_, rfl, (Backend.agrees_count _ _ _).trans (Backend.agrees_count _ _ _)⟩
    · exact ⟨_, rfl, Backend.agrees_count _ _ _⟩
  · obtain ⟨b', hRun, hAgrees⟩ := run_countKinds batch { b with events := s }
    simp only [hAppend]
    rw [run_bind, run_set]
    simp only
    rw [run_bind, hRun]
    exact ⟨b', rfl, hAgrees⟩

end Operation

end Galley
