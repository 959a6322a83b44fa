import Galley.Proofs.Template.Aggregate

/-!
# Templates as they were

A history that replay accepts has its versions in order, without a gap, so the events up to a
version are just as many of its first ones. What stands behind them, and whether it can be replayed
at all, makes no difference.

Main results:

* `versions_of_replay` — the versions of a history that replay accepts.
* `replayUntil_eq` — a template as of a version is the replay of that many events.
* `replayUntil_append` — events of later versions, whatever they are, leave it alone.
-/

namespace Galley.Aggregate

variable {id : Uuid} {history : List StoredEvent} {a b : Aggregate}

-- ---------------------------------------------------------------------------
-- Versions of a history
-- ---------------------------------------------------------------------------

theorem version_of_applyStored {stored : StoredEvent} (h : a.applyStored stored = .ok b) :
    stored.version = a.version + 1 := by
  rw [applyStored] at h
  split at h
  · cases h
  split at h
  · cases h
  · next hVersion => exact not_not.mp hVersion

/-- The versions of records that are taken go on from the version of the template. -/
theorem versions_of_applyAll (h : applyAll a history = .ok b) :
    history.map StoredEvent.version = List.range' (a.version + 1) history.length := by
  induction history generalizing a with
  | nil => rfl
  | cons stored history ih =>
    obtain ⟨next, hNext, hRest⟩ := bind_eq_ok.mp h
    have hVersion : next.version = a.version + 1 := (applyStored_ok hNext).2.1
    rw [List.map_cons, version_of_applyStored hNext, ih hRest, hVersion, List.length_cons,
      List.range'_succ]

/-- **The versions of a history that replay accepts** count its events. -/
theorem versions_of_replay (h : replay id history = .ok a) :
    history.map StoredEvent.version = List.range' 1 history.length :=
  versions_of_applyAll h

/-- No record of a history that replay accepts has a version above the number of its events. -/
theorem version_le_of_mem (h : replay id history = .ok a) {e : StoredEvent} (he : e ∈ history) :
    e.version ≤ history.length := by
  have hMem : e.version ∈ history.map StoredEvent.version := List.mem_map_of_mem he
  rw [versions_of_replay h, List.mem_range'_1] at hMem
  omega

/-- Of records whose versions follow each other, those up to a version are the first ones. -/
theorem takeWhile_version (version : Nat) : ∀ {history : List StoredEvent} {start : Nat},
    history.map StoredEvent.version = List.range' (start + 1) history.length →
      history.takeWhile (fun e => e.version ≤ version) = history.take (version - start)
  | [], start, _ => by rw [List.takeWhile_nil, List.take_nil]
  | e :: history, start, h => by
    rw [List.map_cons, List.length_cons, List.range'_succ] at h
    obtain ⟨hFirst, hRest⟩ := List.cons.inj h
    by_cases hReached : start + 1 ≤ version
    · have hCount : version - start = (version - (start + 1)) + 1 := by omega
      rw [List.takeWhile_cons_of_pos (by rw [hFirst]; exact decide_eq_true hReached), hCount,
        List.take_succ_cons, takeWhile_version version hRest]
    · have hNone : version - start = 0 := by omega
      rw [List.takeWhile_cons_of_neg (by rw [hFirst]; simpa using hReached), hNone, List.take_zero]

-- ---------------------------------------------------------------------------
-- The template of a replay
-- ---------------------------------------------------------------------------

theorem id_of_snapshot {t : Template} (h : a.snapshot = .ok t) : t.id = a.id := by
  rw [snapshot, toTemplate] at h
  cases hState : a.state with
  | none =>
    rw [hState] at h
    cases h
  | some s =>
    rw [hState] at h
    cases h
    rfl

theorem snapshot_of_isCreated (h : a.isCreated = true) : ∃ t, a.snapshot = .ok t := by
  obtain ⟨s, hState⟩ := Option.isSome_iff_exists.mp h
  exact ⟨_, by rw [snapshot, toTemplate, hState]; rfl⟩

-- ---------------------------------------------------------------------------
-- The past
-- ---------------------------------------------------------------------------

/-- **A template as of a version** is the replay of that many events. -/
theorem replayUntil_eq (h : replay id history = .ok a) (version : Nat) :
    replayUntil id history version = replay id (history.take version) := by
  have hVersions : history.map StoredEvent.version = List.range' (0 + 1) history.length :=
    versions_of_replay h
  rw [replayUntil, takeWhile_version version hVersions, Nat.sub_zero]

/-- The first events of a history that replay accepts are accepted. -/
theorem replay_take (h : replay id history = .ok a) (version : Nat) :
    ∃ b, replay id (history.take version) = .ok b := by
  have hParts : replay id (history.take version ++ history.drop version) = .ok a := by
    rw [List.take_append_drop]
    exact h
  rw [replay, applyAll_append] at hParts
  obtain ⟨b, hFirst, -⟩ := bind_eq_ok.mp hParts
  exact ⟨b, hFirst⟩

/-- **Events of later versions leave the past alone**, whatever they are. -/
theorem replayUntil_append (h : replay id history = .ok a) {more : List StoredEvent}
    (hAbove : ∀ e ∈ more, history.length < e.version) :
    replayUntil id (history ++ more) history.length = .ok a := by
  have hReached : ∀ e ∈ history, decide (e.version ≤ history.length) = true :=
    fun e he => decide_eq_true (version_le_of_mem h he)
  have hNone : more.takeWhile (fun e => decide (e.version ≤ history.length)) = [] := by
    cases more with
    | nil => rfl
    | cons e more =>
      have he : history.length < e.version := hAbove e List.mem_cons_self
      exact List.takeWhile_cons_of_neg (by simpa using he)
  rw [replayUntil, List.takeWhile_append_of_pos hReached, hNone, List.append_nil]
  exact h

end Galley.Aggregate
