import Galley.Proofs.Log.Coherence
import Galley.Proofs.Storage.Outage

/-!
# What is counted about storage

Some counters can be checked against what is stored: appended events by kind, conflicts, and the
events that each projection has folded (`Measure.IsAudited`). They are bumped in several places, and
not at the moment at which the stores change. Conflicts are even counted twice, by the store and as
failures of their code.

Whatever fails on the way, an operation that does not append leaves these counters alone
(`Operation.LeavesAudit`), as long as no outage is planned that passes itself off as a conflict. An
append adds to them just what it has done.

Main results:

* `Tally.value_add` — what counting changes.
* `LeavesAudit.bind` — one step after another.
* `Operation.run_append_books` — what an append counts, whatever comes of it.
-/

namespace Galley

-- ---------------------------------------------------------------------------
-- Tallies
-- ---------------------------------------------------------------------------

namespace Tally

variable {t : Tally} {m other : Measure}

/-- Altering one entry leaves the others. -/
theorem lookup_alter (m other : Measure) (f : Nat → Nat) (entries : List (Measure × Nat)) :
    (alter m f entries).lookup other =
      if other = m then some (f ((entries.lookup m).getD 0)) else entries.lookup other := by
  induction entries with
  | nil => exact lookup_cons_ite m other (f 0) []
  | cons entry rest ih =>
    obtain ⟨first, n⟩ := entry
    rw [alter]
    by_cases hFirst : first = m
    · rw [if_pos hFirst, lookup_cons_ite, lookup_cons_ite, lookup_cons_ite, hFirst, if_pos rfl]
      split <;> rfl
    · rw [if_neg hFirst, lookup_cons_ite, lookup_cons_ite, lookup_cons_ite, ih,
        if_neg (Ne.symm hFirst)]
      by_cases hOther : other = first
      · rw [if_pos hOther, if_pos hOther, if_neg (hOther ▸ hFirst)]
      · rw [if_neg hOther, if_neg hOther]

/-- **What counting changes**: one counter. -/
theorem value_add (t : Tally) (m other : Measure) (n : Nat) :
    (t.add m n).value other = if other = m then t.value other + n else t.value other := by
  rw [value, value, add, lookup_alter]
  split
  · next h =>
    rw [h]
    rfl
  · rfl

theorem value_set_of_ne (h : other ≠ m) (n : Nat) : (t.set m n).value other = t.value other := by
  rw [value, value, set, lookup_alter, if_neg h]

end Tally

/-- The measures that what is stored accounts for. -/
def Measure.IsAudited : Measure → Prop
  | failures code => code = .concurrencyConflict
  | appended _ => True
  | conflicts => True
  | folded _ => True
  | _ => False

/-- No planned outage passes itself off as a conflict. -/
def Backend.PlansNoConflict (b : Backend) : Prop :=
  ∀ call f, some f ∈ b.outages call → f.code ≠ .concurrencyConflict

/-- Storage in which nothing that is audited has changed. -/
structure Backend.Untouched (b b' : Backend) : Prop where
  events : b'.events = b.events
  checkpoints : b'.checkpoints = b.checkpoints
  plans : b'.PlansNoConflict
  audited : ∀ m, m.IsAudited → b'.tally.value m = b.tally.value m

namespace Backend

variable {b b' b'' : Backend}

theorem untouched_self (hb : b.PlansNoConflict) : b.Untouched b := ⟨rfl, rfl, hb, fun _ _ => rfl⟩

theorem Untouched.trans (h : b.Untouched b') (h' : b'.Untouched b'') : b.Untouched b'' where
  events := h'.events.trans h.events
  checkpoints := h'.checkpoints.trans h.checkpoints
  plans := h'.plans
  audited := fun m hm => (h'.audited m hm).trans (h.audited m hm)

/-- Counting adds to one measure only. -/
theorem value_count (b : Backend) (m other : Measure) (n : Nat) :
    (b.count m n).tally.value other =
      if other = m then b.tally.value other + n else b.tally.value other :=
  b.tally.value_add m other n

/-- What is not audited may be counted. -/
theorem untouched_count (hb : b.PlansNoConflict) {m : Measure} (hm : ¬m.IsAudited) (n : Nat) :
    b.Untouched (b.count m n) := by
  refine ⟨rfl, rfl, hb, fun other hOther => ?_⟩
  have hNe : other ≠ m := fun h => hm (h ▸ hOther)
  rw [value_count, if_neg hNe]

/-- What is left of the planned outages when one has happened has no conflict, either. -/
theorem PlansNoConflict.rest (hb : b.PlansNoConflict) {call : StoreCall} {outage : Option Failure}
    {rest : List (Option Failure)} (hPlan : b.outages call = outage :: rest) :
    (b.withOutages call rest).PlansNoConflict := by
  intro other f hf
  simp only [withOutages] at hf
  split at hf
  · refine hb call f ?_
    rw [hPlan]
    exact List.mem_cons_of_mem _ hf
  · exact hb other f hf

end Backend

namespace Operation

variable {α β : Type}

/-- An operation leaves what is audited alone, whatever comes of it, and does not fail as a
conflict. -/
def LeavesAudit (op : Operation α) : Prop :=
  ∀ b : Backend, b.PlansNoConflict → b.Untouched (op.run b).2 ∧
    ∀ e, (op.run b).1 = .error e → e.code ≠ .concurrencyConflict

theorem leavesAudit_pure (x : α) : LeavesAudit (pure x) :=
  fun _ hb => ⟨Backend.untouched_self hb, nofun⟩

/-- **One step after another.** -/
theorem LeavesAudit.bind {op : Operation α} {next : α → Operation β} (hOp : LeavesAudit op)
    (hNext : ∀ x, LeavesAudit (next x)) : LeavesAudit (op >>= next) := by
  intro b hb
  obtain ⟨hFirst, hFails⟩ := hOp b hb
  rw [run_bind]
  rcases hRun : op.run b with ⟨e | x, b'⟩
  · rw [hRun] at hFirst hFails
    exact ⟨hFirst, fun e' h => by cases h; exact hFails e rfl⟩
  · rw [hRun] at hFirst
    obtain ⟨hRest, hFailsThen⟩ := hNext x b' hFirst.plans
    exact ⟨hFirst.trans hRest, hFailsThen⟩

/-- What depends on storage. -/
theorem leavesAudit_get {op : Backend → Operation α} (h : ∀ b, LeavesAudit (op b)) :
    LeavesAudit (get >>= op) := by
  intro b hb
  rw [run_bind, run_get]
  exact h b b hb

/-- A failure that is no conflict is not audited. -/
theorem leavesAudit_fail {f : Failure} (hf : f.code ≠ .concurrencyConflict) :
    LeavesAudit (fail f : Operation α) := by
  intro b hb
  refine ⟨Backend.untouched_count (m := .failures f.code) hb hf 1, fun e h => ?_⟩
  cases h
  exact hf

theorem leavesAudit_ofExcept {x : Except Failure α}
    (hx : ∀ e, x = .error e → e.code ≠ .concurrencyConflict) : LeavesAudit (ofExcept x) := by
  cases x with
  | ok y => exact leavesAudit_pure y
  | error e => exact leavesAudit_fail (hx e rfl)

/-- **A call that may be out of order.** -/
theorem leavesAudit_reach (call : StoreCall) : LeavesAudit (reach call) := by
  intro b hb
  rw [reach, run_bind, run_get]
  rcases hPlan : b.outages call with _ | ⟨outage, rest⟩
  · simp only [hPlan]
    exact leavesAudit_pure () b hb
  · have hRest := hb.rest hPlan
    have hTaken : b.Untouched (b.withOutages call rest) := ⟨rfl, rfl, hRest, fun _ _ => rfl⟩
    simp only [hPlan]
    rw [run_bind, run_set]
    cases outage with
    | none =>
      obtain ⟨hThen, hFails⟩ := leavesAudit_pure () (b.withOutages call rest) hRest
      exact ⟨hTaken.trans hThen, hFails⟩
    | some f =>
      have hf : f.code ≠ .concurrencyConflict := by
        refine hb call f ?_
        rw [hPlan]
        exact List.mem_cons_self
      obtain ⟨hThen, hFails⟩ := leavesAudit_fail (α := Unit) hf (b.withOutages call rest) hRest
      exact ⟨hTaken.trans hThen, hFails⟩

/-- Reading a page leaves the books alone. -/
theorem leavesAudit_loadSince (position limit : Nat) : LeavesAudit (loadSince position limit) := by
  refine LeavesAudit.bind (fun b hb => ?_) fun _ => (leavesAudit_reach _).bind fun _ =>
    leavesAudit_get fun _ => leavesAudit_pure _
  exact ⟨⟨rfl, rfl, hb, fun _ _ => rfl⟩, nofun⟩

/-- Loading a checkpoint leaves the books alone. -/
theorem leavesAudit_loadCheckpoint (name : String) : LeavesAudit (loadCheckpoint name) :=
  (leavesAudit_reach _).bind fun _ => leavesAudit_get fun _ => leavesAudit_pure _

-- ---------------------------------------------------------------------------
-- Appending
-- ---------------------------------------------------------------------------

/-- Whether an append was answered as a conflict. -/
def isRefusal : Except Failure α → Bool
  | .ok _ => false
  | .error f => f.code = .concurrencyConflict

/-- What an append leaves in the books: the log goes on by some events, each counted under its kind,
and a conflict is counted once as such and once as a failure. -/
structure Books (b : Backend) (a : EventStore.Attempt) (result : Except Failure Nat × Backend)
    (more : List StoredEvent) : Prop where
  events : result.2.events = b.events ∨ result.2.events = (b.events.attempt a).2
  log : result.2.events.log = b.events.log ++ more
  checkpoints : result.2.checkpoints = b.checkpoints
  plans : result.2.PlansNoConflict
  appended : ∀ kind, result.2.tally.value (.appended kind) =
    b.tally.value (.appended kind) + more.countP fun e => e.kind = kind
  conflicts : result.2.tally.value .conflicts =
    b.tally.value .conflicts + (isRefusal result.1).toNat
  failures : result.2.tally.value (.failures .concurrencyConflict) =
    b.tally.value (.failures .concurrencyConflict) + (isRefusal result.1).toNat
  folded : ∀ name, result.2.tally.value (.folded name) = b.tally.value (.folded name)

/-- A batch brings as many events of each kind to the log as it has. -/
theorem countP_number (kind : String) (id : Uuid) (now : Instant) (batch : List NewEvent) :
    ∀ version sequence : Nat,
      (EventStore.number id now version sequence batch).countP (fun e => e.kind = kind) =
        batch.countP fun e => e.kind = kind := by
  induction batch with
  | nil => exact fun _ _ => rfl
  | cons e batch ih =>
    intro version sequence
    rw [EventStore.number, List.countP_cons, List.countP_cons, ih]

/-- Each event of a batch is counted under its kind. -/
theorem run_countKinds_eq (batch : List NewEvent) : ∀ b : Backend,
    ∃ t, (countKinds batch).run b = (.ok (), { b with tally := t }) ∧
      (∀ kind, t.value (.appended kind) =
        b.tally.value (.appended kind) + batch.countP fun e => e.kind = kind) ∧
      ∀ m, (∀ kind, m ≠ .appended kind) → t.value m = b.tally.value m := by
  induction batch with
  | nil => exact fun b => ⟨b.tally, rfl, fun _ => rfl, fun _ _ => rfl⟩
  | cons e batch ih =>
    intro b
    obtain ⟨t, hRun, hKinds, hOthers⟩ := ih (b.count (.appended e.kind) 1)
    refine ⟨t, hRun, fun kind => ?_, fun m hm => ?_⟩
    · rw [hKinds kind, Backend.value_count, List.countP_cons]
      by_cases hKind : e.kind = kind
      · rw [if_pos (by rw [hKind]), if_pos (by simpa using hKind)]
        omega
      · rw [if_neg (by simpa using Ne.symm hKind), if_neg (by simpa using hKind)]
        omega
    · rw [hOthers m hm, Backend.value_count, if_neg (hm e.kind)]

/-- An append that comes to nothing and is not audited. -/
theorem Books.of_untouched {b b' : Backend} {a : EventStore.Attempt} {e : Failure}
    (h : b.Untouched b') (he : e.code ≠ .concurrencyConflict) : Books b a (.error e, b') [] where
  events := .inl h.events
  log := by rw [h.events, List.append_nil]
  checkpoints := h.checkpoints
  plans := h.plans
  appended := fun kind => h.audited (.appended kind) trivial
  conflicts := by rw [h.audited .conflicts trivial, isRefusal, decide_eq_false he]; rfl
  failures := by
    rw [h.audited (.failures .concurrencyConflict) rfl, isRefusal, decide_eq_false he]; rfl
  folded := fun name => h.audited (.folded name) trivial

/-- **What an append counts, whatever comes of it.** -/
theorem run_append_books {b : Backend} (hb : b.PlansNoConflict) (a : EventStore.Attempt) :
    ∃ more, Books b a ((append a.now a.id a.expected a.batch).run b) more := by
  obtain ⟨hReached, hFails⟩ := leavesAudit_reach .append b hb
  rw [append, run_bind]
  rcases hReach : (reach .append).run b with ⟨e | _, b₁⟩
  · rw [hReach] at hReached hFails
    exact ⟨[], .of_untouched hReached (hFails e rfl)⟩
  rw [hReach] at hReached
  have hEvents : b₁.events = b.events := hReached.events
  simp only
  rw [run_bind, run_get]
  rcases hAppend : b₁.events.append a.now a.id a.expected a.batch with ⟨f | version, s⟩
  · -- refused: an empty batch is a failure like any other, a conflict is counted twice
    have hSame : s = b₁.events := EventStore.append_error hAppend
    subst hSame
    simp only [hAppend]
    rw [run_bind, run_set]
    rw [EventStore.append_eq] at hAppend
    split at hAppend
    · cases hAppend
      have hCode : (Failure.emptyBatch a.id).code ≠ .concurrencyConflict := by
        intro hSame
        cases hSame
      obtain ⟨hFailed, -⟩ := leavesAudit_fail (α := Nat) hCode b₁ hReached.plans
      exact ⟨[], .of_untouched (hReached.trans hFailed) hCode⟩
    · split at hAppend
      · cases hAppend
      · cases hAppend
        have hValue (m : Measure) (hm : m.IsAudited) :
            (((b₁.count .conflicts 1).count (.failures .concurrencyConflict) 1).tally.value m) =
              if m = .conflicts ∨ m = .failures .concurrencyConflict then b.tally.value m + 1
              else b.tally.value m := by
          rw [Backend.value_count, Backend.value_count, hReached.audited m hm]
          by_cases hFirst : m = .conflicts
          · rw [hFirst]
            rfl
          · by_cases hSecond : m = .failures .concurrencyConflict
            · rw [hSecond]
              rfl
            · rw [if_neg hFirst, if_neg hSecond, if_neg (not_or.mpr ⟨hFirst, hSecond⟩)]
        refine ⟨[], .inl hEvents, ?_, hReached.checkpoints, hReached.plans, fun kind => ?_, ?_, ?_,
          fun name => ?_⟩
        · rw [List.append_nil]
          exact congrArg EventStore.log hEvents
        · exact hValue (.appended kind) trivial
        · exact hValue .conflicts trivial
        · exact hValue (.failures .concurrencyConflict) rfl
        · exact hValue (.folded name) trivial
  · -- stored: every event is counted under its kind, and nothing else is counted
    have hNext : s = (b.events.attempt a).2 := by
      rw [EventStore.attempt, ← hEvents, hAppend]
    obtain ⟨-, -, -, hGrown⟩ := EventStore.append_ok hAppend
    obtain ⟨t, hRun, hKinds, hOthers⟩ := run_countKinds_eq a.batch { b₁ with events := s }
    simp only [hAppend]
    rw [run_bind, run_set]
    simp only
    rw [run_bind, hRun]
    have hSame (m : Measure) (hm : m.IsAudited) (hNotKind : ∀ kind, m ≠ .appended kind) :
        t.value m = b.tally.value m := (hOthers m hNotKind).trans (hReached.audited m hm)
    refine ⟨EventStore.number a.id a.now a.expected b₁.events.lastSequence a.batch, .inr hNext, ?_,
      hReached.checkpoints, hReached.plans, fun kind => ?_, ?_, ?_, fun name => ?_⟩
    · show s.log = _
      rw [hGrown, ← hEvents]
      rfl
    · have hBefore := hReached.audited (.appended kind) trivial
      rw [countP_number, ← hBefore]
      exact hKinds kind
    · exact hSame .conflicts trivial (by simp)
    · exact hSame (.failures .concurrencyConflict) rfl (by simp)
    · exact hSame (.folded name) trivial (by simp)

end Operation

end Galley
