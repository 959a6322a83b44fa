import Mathlib.Data.List.Nodup
import Galley.Proofs.Log.Coherence

/-!
# Writers in a race

Any number of writers append to one store, each naming the version that it has seen. Nobody holds a
lock, and what decides is the order in which the attempts get to the store. In that order the wins
on a stream form a chain: each expects the version that the one before it was given. So no version
is built upon twice, and whoever is refused learns the version that would have been right.

What carries the induction is one fact about an attempt (`currentVersion_attempt`): a win moves the
version of its own stream to the version that it is given, and nothing else moves a version.

Main results:

* `chain_wins` — the wins on a stream lead from the version before all attempts to the one after
  them.
* `race` — from the empty store on, and what it means for the next attempt.
-/

namespace Galley

/-- The version that the details of a failure report as the current one. -/
def Failure.actualVersion? (f : Failure) : Option Json :=
  f.report.details.context.lookup "actualVersion"

namespace EventStore

/-- An attempt that succeeded, and the version that it was given. -/
structure Win where
  attempt : Attempt
  version : Nat

/-- The wins among attempts that come one after another. -/
def wins (s : EventStore) : List Attempt → List Win
  | [] => []
  | a :: as =>
    match s.attempt a with
    | (.ok version, next) => ⟨a, version⟩ :: next.wins as
    | (.error _, next) => next.wins as

/-- The wins on the stream of an aggregate. -/
def winsOn (s : EventStore) (id : Uuid) (as : List Attempt) : List Win :=
  (s.wins as).filter fun w => w.attempt.id = id

/-- Wins that lead from one version to another: the first expects the version at which they start,
each later one the version that the one before it was given, and the last is given the version at
which they end. Each goes on by the length of its batch, which is not empty. -/
inductive Chain : (start finish : Nat) → List Win → Prop
  | nil (version : Nat) : Chain version version []
  | cons {start finish : Nat} {w : Win} {ws : List Win} (hExpected : w.attempt.expected = start)
      (hSome : w.attempt.batch ≠ []) (hGiven : w.version = start + w.attempt.batch.length)
      (hRest : Chain w.version finish ws) : Chain start finish (w :: ws)

/-- An attempt succeeds. -/
def Succeeds (s : EventStore) (a : Attempt) : Prop :=
  ∃ version next, s.attempt a = (.ok version, next)

/-- An attempt to append is decided by the current version of its stream. One that expects it
succeeds. Any other is refused as a conflict, which reports the current version and changes nothing,
so the same attempt succeeds when it expects the reported version and is made at once. -/
structure DecidedByVersion (s : EventStore) (a : Attempt) : Prop where
  succeeds : a.expected = s.currentVersion a.id → s.Succeeds a
  refused : ∀ f next, s.attempt a = (.error f, next) →
    f.code = .concurrencyConflict ∧ f.actualVersion? = some (.nat (s.currentVersion a.id)) ∧
      next = s ∧ ∀ now, next.Succeeds { a with now := now, expected := s.currentVersion a.id }

-- ---------------------------------------------------------------------------
-- One attempt
-- ---------------------------------------------------------------------------

variable {s next : EventStore} {a : Attempt}

/-- **A win moves the version of its own stream**, from the version it expects to the version that
it is given, and leaves all others alone. -/
theorem currentVersion_attempt {version : Nat} (h : s.attempt a = (.ok version, next)) :
    a.batch ≠ [] ∧ a.expected = s.currentVersion a.id ∧
      version = s.currentVersion a.id + a.batch.length ∧
      ∀ id, next.currentVersion id = if id = a.id then version else s.currentVersion id := by
  obtain ⟨hSome, hVersion, hGiven, rfl⟩ := append_ok h
  refine ⟨hSome, hVersion.symm, by rw [currentVersion_eq, hVersion, hGiven], fun id => ?_⟩
  rw [currentVersion_eq, held_grown]
  split
  · rw [List.length_append, length_number, hVersion, hGiven]
  · rfl

/-- An attempt that expects the current version succeeds, unless it has nothing to append. -/
theorem succeeds_of_current (hSome : a.batch ≠ []) (h : a.expected = s.currentVersion a.id) :
    s.Succeeds a := by
  rw [Succeeds, attempt, append_eq, if_neg (List.isEmpty_iff.not.mpr hSome), if_pos h.symm]
  exact ⟨_, _, rfl⟩

theorem actualVersion?_conflict (id : Uuid) (expected actual : Nat) :
    (Failure.conflict id expected actual).actualVersion? = some (.nat actual) := by
  rfl

theorem decidedByVersion (s : EventStore) (hSome : a.batch ≠ []) : s.DecidedByVersion a where
  succeeds := succeeds_of_current hSome
  refused := by
    intro f next h
    have hOutcome := s.allOrNothing a
    rw [AllOrNothing, h] at hOutcome
    obtain ⟨rfl, ⟨hNone, -⟩ | ⟨-, -, rfl⟩⟩ := hOutcome
    · exact absurd hNone hSome
    · exact ⟨rfl, actualVersion?_conflict _ _ _, rfl, fun _ => succeeds_of_current hSome rfl⟩

-- ---------------------------------------------------------------------------
-- Chains
-- ---------------------------------------------------------------------------

/-- No win of a chain expects a version before its start. -/
theorem Chain.start_le {start finish : Nat} {ws : List Win} (h : Chain start finish ws) :
    ∀ w ∈ ws, start ≤ w.attempt.expected := by
  induction h with
  | nil => exact fun _ hw => nomatch hw
  | cons hExpected _ hGiven _ ih =>
    refine List.forall_mem_cons.mpr ⟨Nat.le_of_eq hExpected.symm, fun w hw => ?_⟩
    have := ih w hw
    omega

/-- The versions that the wins of a chain expect increase. -/
theorem Chain.expected_increasing {start finish : Nat} {ws : List Win}
    (h : Chain start finish ws) :
    (ws.map fun w => w.attempt.expected).Pairwise (· < ·) := by
  induction h with
  | nil => exact .nil
  | cons hExpected hSome hGiven hRest ih =>
    rw [List.map_cons, List.pairwise_cons]
    refine ⟨List.forall_mem_map.mpr fun w hw => ?_, ih⟩
    have hLater := hRest.start_le w hw
    have hLength := List.length_pos_iff.mpr hSome
    omega

/-- **The wins on a stream form a chain**, from the version before all attempts to the version after
them. -/
theorem chain_wins (id : Uuid) (as : List Attempt) : ∀ s : EventStore,
    Chain (s.currentVersion id) ((s.attempts as).currentVersion id) (s.winsOn id as) := by
  induction as with
  | nil => exact fun s => .nil _
  | cons a as ih =>
    intro s
    have hRun : s.attempts (a :: as) = (s.attempt a).2.attempts as := rfl
    have hRest := ih (s.attempt a).2
    rw [hRun, winsOn, wins]
    rcases hAttempt : s.attempt a with ⟨f | version, next⟩
    · -- a refusal is no win and moves no version
      rw [hAttempt, append_error hAttempt] at hRest
      rw [append_error hAttempt]
      exact hRest
    · obtain ⟨hSome, hExpected, hGiven, hNext⟩ := currentVersion_attempt hAttempt
      rw [hAttempt, hNext] at hRest
      simp only
      by_cases hSame : a.id = id
      · subst hSame
        rw [if_pos rfl] at hRest
        rw [List.filter_cons_of_pos (by simp)]
        exact .cons hExpected hSome hGiven hRest
      · rw [if_neg (Ne.symm hSame)] at hRest
        rw [List.filter_cons_of_neg (by simpa using hSame)]
        exact hRest

/-- **Whatever the order of the attempts**, the wins on each stream form a chain that starts at
version 0 and ends at the current version. So at most one win on a stream expects any given version,
and the next attempt is decided by the current version of its stream. -/
theorem race (as : List Attempt) :
    let s := (empty : EventStore).attempts as
    (∀ id, Chain 0 (s.currentVersion id) ((empty : EventStore).winsOn id as)) ∧
      (∀ id version,
        (((empty : EventStore).winsOn id as).map fun w => w.attempt.expected).count version ≤ 1) ∧
      ∀ a, a.batch ≠ [] → s.DecidedByVersion a := by
  intro s
  have hChain (id : Uuid) : Chain 0 (s.currentVersion id) ((empty : EventStore).winsOn id as) :=
    chain_wins id as empty
  refine ⟨hChain, fun id version => ?_, fun a hSome => s.decidedByVersion hSome⟩
  exact List.nodup_iff_count_le_one.mp ((hChain id).expected_increasing.imp Nat.ne_of_lt) version

/-- Two writers that have both seen version 1: the first wins, and the other one does so when it
tries again with the version that it was told. -/
example :
    let e : NewEvent := ⟨"template", "w", .null, default⟩
    ((empty : EventStore).winsOn (.ofNat 1) [⟨default, .ofNat 1, 0, [e]⟩,
        ⟨default, .ofNat 1, 1, [e, e]⟩, ⟨default, .ofNat 1, 1, [e]⟩,
        ⟨default, .ofNat 1, 3, [e]⟩]).map (fun w => (w.attempt.expected, w.version)) =
      [(0, 1), (1, 3), (3, 4)] := by
  decide +kernel

end EventStore

end Galley
