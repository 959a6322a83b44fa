import Galley.Log.Store

/-!
# What an append does

The stream of an aggregate, empty when there is none, is all that an append looks at: it is refused
unless the stream has just the expected length, and else it adds the numbered batch to that stream
and to the log. `append_eq` says so in one equation; what follows from an append is read off it.

Main results:

* `append_eq` — an append, told by the length of one stream.
* `held_grown` — an append adds to one stream and leaves the others alone.
* `load_eq` — loading gives the stream, unless it is empty.
-/

namespace Galley

theorem lookup_cons_ite {α β : Type} [DecidableEq α] (first other : α) (value : β)
    (rest : List (α × β)) :
    ((first, value) :: rest).lookup other =
      if other = first then some value else rest.lookup other := by
  rw [List.lookup_cons]
  by_cases h : other = first
  · rw [if_pos h, beq_iff_eq.mpr h]
  · rw [if_neg h, beq_eq_false_iff_ne.mpr h]

namespace EventStore

/-- The stream of an aggregate, empty when there is none. -/
def held (s : EventStore) (id : Uuid) : List StoredEvent := (s.stream? id).getD []

/-- The version of a stream is its length. -/
theorem currentVersion_eq (s : EventStore) (id : Uuid) :
    s.currentVersion id = (s.held id).length := by
  rfl

/-- The store with records added to a stream and to the log. -/
def grown (s : EventStore) (id : Uuid) (records : List StoredEvent) : EventStore :=
  { s.withStream id (s.held id ++ records) with log := s.log ++ records }

-- ---------------------------------------------------------------------------
-- Streams
-- ---------------------------------------------------------------------------

/-- A stream that is put replaces the one of its identifier only. -/
theorem lookup_putStream (id other : Uuid) (events : List StoredEvent)
    (streams : List (Uuid × List StoredEvent)) :
    (putStream id events streams).lookup other =
      if other = id then some events else streams.lookup other := by
  induction streams with
  | nil => exact lookup_cons_ite id other events []
  | cons entry rest ih =>
    obtain ⟨first, held⟩ := entry
    rw [putStream]
    by_cases hFirst : first = id
    · rw [if_pos hFirst, lookup_cons_ite, lookup_cons_ite, hFirst]
      by_cases h : other = id
      · rw [if_pos h, if_pos h]
      · rw [if_neg h, if_neg h, if_neg h]
    · rw [if_neg hFirst, lookup_cons_ite, lookup_cons_ite, ih]
      by_cases h : other = first
      · rw [if_pos h, if_pos h, if_neg (h ▸ hFirst)]
      · rw [if_neg h, if_neg h]

/-- Replacing a stream leaves the others alone. -/
theorem stream?_grown (s : EventStore) (id other : Uuid) (records : List StoredEvent) :
    (s.grown id records).stream? other =
      if other = id then some (s.held id ++ records) else s.stream? other :=
  lookup_putStream id other _ s.streams

/-- **An append adds to one stream** and leaves the others alone. -/
theorem held_grown (s : EventStore) (id other : Uuid) (records : List StoredEvent) :
    (s.grown id records).held other =
      if other = id then s.held id ++ records else s.held other := by
  rw [held, stream?_grown]
  split
  · rfl
  · rfl

/-- A stream grows at its end. -/
@[simp] theorem held_grown_self (s : EventStore) (id : Uuid) (records : List StoredEvent) :
    (s.grown id records).held id = s.held id ++ records := by
  rw [held_grown, if_pos rfl]

/-- No other stream grows. -/
theorem held_grown_of_ne (s : EventStore) {id other : Uuid} (h : other ≠ id)
    (records : List StoredEvent) : (s.grown id records).held other = s.held other := by
  rw [held_grown, if_neg h]

/-- A stream only ever goes on. -/
theorem held_prefix_grown (s : EventStore) (id other : Uuid) (records : List StoredEvent) :
    s.held other <+: (s.grown id records).held other := by
  rw [held_grown]
  split
  · next h => exact ⟨records, by rw [h]⟩
  · exact List.prefix_refl _

/-- The last sequence is that of the last record, if there is one. -/
theorem lastSequence_grown (s : EventStore) (id : Uuid) (records : List StoredEvent) :
    (s.grown id records).lastSequence =
      (records.map StoredEvent.sequence).getLast?.getD s.lastSequence := by
  rw [lastSequence, grown, List.getLast?_append, List.getLast?_map]
  cases records.getLast? with
  | none => rfl
  | some e => rfl

-- ---------------------------------------------------------------------------
-- Appending and loading
-- ---------------------------------------------------------------------------

theorem length_number (id : Uuid) (now : Instant) (batch : List NewEvent) :
    ∀ version sequence : Nat, (number id now version sequence batch).length = batch.length := by
  induction batch with
  | nil =>
    intro version sequence
    rfl
  | cons e batch ih =>
    intro version sequence
    rw [number, List.length_cons, List.length_cons, ih]

/-- **An append**, told by the length of one stream. -/
theorem append_eq (s : EventStore) (now : Instant) (id : Uuid) (expected : Nat)
    (batch : List NewEvent) :
    s.append now id expected batch =
      if batch.isEmpty then (.error (.emptyBatch id), s)
      else if s.currentVersion id = expected then
        (.ok (expected + batch.length),
          s.grown id (number id now expected s.lastSequence batch))
      else (.error (.conflict id expected (s.currentVersion id)), s) := by
  rw [append]
  split
  · rfl
  cases hStream : s.stream? id with
  | none =>
    have hHeld : s.held id = [] := by rw [held, hStream]; rfl
    have hVersion : s.currentVersion id = 0 := by rw [currentVersion_eq, hHeld]; rfl
    simp only [hVersion]
    by_cases hZero : expected = 0
    · subst hZero
      simp [grown, hHeld, length_number]
    · rw [if_pos hZero, if_neg (Ne.symm hZero)]
  | some events =>
    have hHeld : s.held id = events := by rw [held, hStream]; rfl
    have hVersion : s.currentVersion id = events.length := by rw [currentVersion_eq, hHeld]
    simp only [hVersion]
    by_cases hSame : events.length = expected
    · subst hSame
      simp [grown, hHeld, length_number]
    · rw [if_pos hSame, if_neg hSame]

/-- An append that succeeds has found the stream at the expected version. -/
theorem append_ok {s s' : EventStore} {now : Instant} {id : Uuid} {expected version : Nat}
    {batch : List NewEvent} (h : s.append now id expected batch = (.ok version, s')) :
    batch ≠ [] ∧ (s.held id).length = expected ∧ version = expected + batch.length ∧
      s' = s.grown id (number id now expected s.lastSequence batch) := by
  rw [append_eq] at h
  split at h
  · cases h
  · next hSome =>
    split at h
    · next hVersion =>
      cases h
      exact ⟨by simpa using hSome, hVersion, rfl, rfl⟩
    · cases h

/-- An append that fails changes nothing. -/
theorem append_error {s s' : EventStore} {now : Instant} {id : Uuid} {expected : Nat}
    {batch : List NewEvent} {f : Failure} (h : s.append now id expected batch = (.error f, s')) :
    s' = s := by
  rw [append_eq] at h
  split at h
  · cases h
    rfl
  · split at h
    · cases h
    · cases h
      rfl

/-- What loading gives for a stream: the stream itself, unless it is empty. -/
def loaded (id : Uuid) (history : List StoredEvent) : Except Failure (List StoredEvent) :=
  if history = [] then .error (.notFound id) else .ok history

/-- **Loading gives the stream**, unless it is empty. -/
theorem load_eq (s : EventStore) (id : Uuid) : s.load id = loaded id (s.held id) := by
  rw [load, held]
  cases s.stream? id with
  | none => rfl
  | some events => cases events <;> rfl

end EventStore

end Galley
