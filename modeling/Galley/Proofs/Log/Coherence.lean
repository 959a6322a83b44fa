import Mathlib.Data.List.Forall2
import Galley.Proofs.Log.Store
import Galley.Word

/-!
# Streams and log tell the same story

The store keeps every event twice, in the stream of its aggregate and in the log, and numbers it
twice, by version and by sequence. An append changes both sides at once or neither, so they never
come apart: versions and sequences have no gaps, and each stream is the part of the log that belongs
to its aggregate. This holds after any attempts to append, whatever versions they expect and whether
or not they succeed.

Main results:

* `Coherent.attempt` — one attempt keeps the two sides together.
* `coherent_attempts` — so does any number of attempts, and each is done in full or not at all.
* `HasRoom.attempts` — sequences stay in a word of 64 bits as long as there is room for the events.
-/

namespace Galley

/-- A record of a new event of an aggregate, with any numbers. -/
structure StoredEvent.IsRecordOf (recordedAt : Instant) (id : Uuid) (e : NewEvent)
    (record : StoredEvent) : Prop where
  aggregateId : record.aggregateId = id
  aggregateType : record.aggregateType = e.aggregateType
  kind : record.kind = e.kind
  payload : record.payload = e.payload
  recordedAt : record.recordedAt = recordedAt

namespace EventStore

/-- An attempt to append a batch, at a reading of the clock. -/
structure Attempt where
  now : Instant
  id : Uuid
  expected : Nat
  batch : List NewEvent

/-- What comes of an attempt. -/
def attempt (s : EventStore) (a : Attempt) : Except Failure Nat × EventStore :=
  s.append a.now a.id a.expected a.batch

/-- The store after attempts that come one after another. -/
def attempts (s : EventStore) (as : List Attempt) : EventStore :=
  as.foldl (fun s a => (s.attempt a).2) s

/-- How many events attempts bring, whether or not they succeed. -/
def offered : List Attempt → Nat
  | [] => 0
  | a :: as => a.batch.length + offered as

/-- So many further events fit behind the last one: their sequences stay in a word of 64 bits. A
counter of that size does not turn over then, and counts as `number` does. -/
def HasRoom (s : EventStore) (events : Nat) : Prop := s.lastSequence + events < Word.values64

instance (s : EventStore) (events : Nat) : Decidable (s.HasRoom events) :=
  inferInstanceAs (Decidable (_ < _))

/-- The events of a log that belong to an aggregate. -/
def ofAggregate (id : Uuid) (log : List StoredEvent) : List StoredEvent :=
  log.filter fun e => e.aggregateId = id

/-- Streams and log go together. -/
structure Coherent (s : EventStore) : Prop where
  /-- A stream that is there has events. -/
  stream_ne_nil : ∀ id, s.stream? id ≠ some []
  /-- The versions of a stream count its events. -/
  versions : ∀ id, (s.held id).map StoredEvent.version = List.range' 1 (s.held id).length
  /-- The sequences of the log count its events. -/
  sequences : s.log.map StoredEvent.sequence = List.range' 1 s.log.length
  /-- A stream is the part of the log that belongs to its aggregate. -/
  held_eq : ∀ id, s.held id = ofAggregate id s.log

/-- An attempt is done in full or not at all: the batch is added to the stream and to the log, and
nowhere else, or nothing changes, as the batch is empty or expects another version. -/
def AllOrNothing (s : EventStore) (a : Attempt) : Prop :=
  match s.attempt a with
  | (.ok version, s') =>
    a.batch ≠ [] ∧ a.expected = s.currentVersion a.id ∧
      version = s.currentVersion a.id + a.batch.length ∧
      ∃ records, List.Forall₂ (StoredEvent.IsRecordOf a.now a.id) a.batch records ∧
        s'.log = s.log ++ records ∧ s'.stream? a.id = some (s.held a.id ++ records) ∧
        ∀ other, other ≠ a.id → s'.stream? other = s.stream? other
  | (.error f, s') =>
    s' = s ∧
      (a.batch = [] ∧ f = .emptyBatch a.id ∨
        a.batch ≠ [] ∧ a.expected ≠ s.currentVersion a.id ∧
          f = .conflict a.id a.expected (s.currentVersion a.id))

-- ---------------------------------------------------------------------------
-- Numbered records
-- ---------------------------------------------------------------------------

section

variable (id : Uuid) (now : Instant)

/-- Each event of a batch gets a record of its own. -/
theorem isRecordOf_number (batch : List NewEvent) : ∀ version sequence : Nat,
    List.Forall₂ (StoredEvent.IsRecordOf now id) batch (number id now version sequence batch) := by
  induction batch with
  | nil => exact fun _ _ => .nil
  | cons e batch ih => exact fun _ _ => .cons ⟨rfl, rfl, rfl, rfl, rfl⟩ (ih _ _)

/-- Versions are given without gaps. -/
theorem versions_number (batch : List NewEvent) : ∀ version sequence : Nat,
    (number id now version sequence batch).map StoredEvent.version =
      List.range' (version + 1) batch.length := by
  induction batch with
  | nil => exact fun _ _ => rfl
  | cons e batch ih =>
    intro version sequence
    rw [number, List.map_cons, ih, List.length_cons, List.range'_succ]

/-- Sequences are given without gaps. -/
theorem sequences_number (batch : List NewEvent) : ∀ version sequence : Nat,
    (number id now version sequence batch).map StoredEvent.sequence =
      List.range' (sequence + 1) batch.length := by
  induction batch with
  | nil => exact fun _ _ => rfl
  | cons e batch ih =>
    intro version sequence
    rw [number, List.map_cons, ih, List.length_cons, List.range'_succ]

theorem aggregateId_of_mem_number {batch : List NewEvent} {version sequence : Nat}
    {record : StoredEvent} (h : record ∈ number id now version sequence batch) :
    record.aggregateId = id := by
  induction batch generalizing version sequence with
  | nil => cases h
  | cons e batch ih =>
    rcases List.mem_cons.mp h with rfl | h
    · rfl
    · exact ih h

/-- Records of one aggregate belong to that one and to no other. -/
theorem ofAggregate_number (other : Uuid) (batch : List NewEvent) (version sequence : Nat) :
    ofAggregate other (number id now version sequence batch) =
      if other = id then number id now version sequence batch else [] := by
  split
  · next hSame =>
    refine List.filter_eq_self.mpr fun record h => ?_
    rw [aggregateId_of_mem_number id now h, hSame, decide_eq_true rfl]
  · next hOther =>
    refine List.filter_eq_nil_iff.mpr fun record h => ?_
    rw [aggregateId_of_mem_number id now h, decide_eq_true_iff]
    exact Ne.symm hOther

end

-- ---------------------------------------------------------------------------
-- One attempt
-- ---------------------------------------------------------------------------

variable {s : EventStore}

theorem ofAggregate_append (id : Uuid) (log more : List StoredEvent) :
    ofAggregate id (log ++ more) = ofAggregate id log ++ ofAggregate id more :=
  List.filter_append log more

/-- The last sequence is the number of events. -/
theorem Coherent.lastSequence_eq (h : s.Coherent) : s.lastSequence = s.log.length := by
  rw [lastSequence, ← List.getLast?_map, h.sequences, List.getLast?_range']
  split
  · next hNone => rw [hNone]; rfl
  · rw [Nat.add_comm, Nat.add_sub_cancel]; rfl

/-- Every event of the log is in its stream. -/
theorem Coherent.mem_held (h : s.Coherent) {e : StoredEvent} (he : e ∈ s.log) :
    e ∈ s.held e.aggregateId := by
  rw [h.held_eq, ofAggregate, List.mem_filter]
  exact ⟨he, decide_eq_true rfl⟩

theorem coherent_empty : (empty : EventStore).Coherent where
  stream_ne_nil := fun _ h => nomatch h
  versions := fun _ => rfl
  sequences := rfl
  held_eq := fun _ => rfl

/-- A batch added on top of a stream and of the log keeps them together. -/
theorem Coherent.grown (h : s.Coherent) (now : Instant) (id : Uuid) {batch : List NewEvent}
    (hSome : batch ≠ []) :
    (s.grown id (number id now (s.held id).length s.lastSequence batch)).Coherent where
  stream_ne_nil := by
    intro other
    rw [stream?_grown]
    split
    · intro hNil
      have hRecords := (List.append_eq_nil_iff.mp (Option.some.inj hNil)).2
      rw [← List.length_eq_zero_iff, length_number, List.length_eq_zero_iff] at hRecords
      exact hSome hRecords
    · exact h.stream_ne_nil other
  versions := by
    intro other
    rw [held_grown]
    split
    · rw [List.map_append, h.versions, versions_number, List.length_append, length_number,
        Nat.add_comm (s.held id).length 1, List.range'_append_1]
    · exact h.versions other
  -- the last sequence is the length of the log, so the new ones go on from there
  sequences := by
    rw [EventStore.grown, List.map_append, h.sequences, sequences_number, h.lastSequence_eq,
      List.length_append, length_number, Nat.add_comm s.log.length 1, List.range'_append_1]
  held_eq := by
    intro other
    rw [held_grown, EventStore.grown, ofAggregate_append, ofAggregate_number, ← h.held_eq]
    split
    · next hSame => rw [hSame]
    · rw [List.append_nil]

/-- **An attempt is done in full or not at all.** -/
theorem allOrNothing (s : EventStore) (a : Attempt) : s.AllOrNothing a := by
  rw [AllOrNothing, attempt, append_eq]
  by_cases hNone : a.batch = []
  · rw [if_pos (List.isEmpty_iff.mpr hNone)]
    exact ⟨rfl, .inl ⟨hNone, rfl⟩⟩
  rw [if_neg (List.isEmpty_iff.not.mpr hNone)]
  by_cases hVersion : s.currentVersion a.id = a.expected
  · rw [if_pos hVersion]
    refine ⟨hNone, hVersion.symm, by rw [hVersion], _, isRecordOf_number a.id a.now a.batch _ _,
      rfl, ?_, fun other hOther => ?_⟩
    · rw [stream?_grown, if_pos rfl]
    · rw [stream?_grown, if_neg hOther]
  · rw [if_neg hVersion]
    exact ⟨rfl, .inr ⟨hNone, Ne.symm hVersion, rfl⟩⟩

/-- **One attempt keeps streams and log together.** -/
theorem Coherent.attempt (h : s.Coherent) (a : Attempt) : (s.attempt a).2.Coherent := by
  rcases hResult : s.attempt a with ⟨f | version, s'⟩
  · rw [append_error hResult]
    exact h
  · obtain ⟨hSome, hVersion, -, rfl⟩ := append_ok hResult
    rw [← hVersion]
    exact h.grown a.now a.id hSome

/-- What an attempt adds to the log is behind all that was there. -/
theorem Coherent.attempt_log (h : s.Coherent) (a : Attempt) :
    ∃ more, (s.attempt a).2.log = s.log ++ more ∧ ∀ e ∈ more, s.log.length < e.sequence := by
  rcases hResult : s.attempt a with ⟨f | version, s'⟩
  · rw [append_error hResult]
    exact ⟨[], by rw [List.append_nil], fun e he => nomatch he⟩
  · obtain ⟨-, -, -, rfl⟩ := append_ok hResult
    refine ⟨_, rfl, fun e he => ?_⟩
    have hSequence := List.mem_map_of_mem (f := StoredEvent.sequence) he
    rw [sequences_number, List.mem_range'_1, h.lastSequence_eq] at hSequence
    omega

-- ---------------------------------------------------------------------------
-- Any number of attempts
-- ---------------------------------------------------------------------------

/-- An attempt counts its batch at most. -/
theorem lastSequence_attempt_le (s : EventStore) (a : Attempt) :
    (s.attempt a).2.lastSequence ≤ s.lastSequence + a.batch.length := by
  rcases hResult : s.attempt a with ⟨f | version, s'⟩
  · rw [append_error hResult]
    exact Nat.le_add_right _ _
  · obtain ⟨hSome, -, -, rfl⟩ := append_ok hResult
    have hLength : a.batch.length ≠ 0 := List.length_eq_zero_iff.not.mpr hSome
    have hLast : (List.range' (s.lastSequence + 1) a.batch.length).getLast? =
        some (s.lastSequence + a.batch.length) := by
      rw [List.getLast?_range', if_neg hLength]
      exact congrArg some (by omega)
    have hGrown := s.lastSequence_grown a.id (number a.id a.now a.expected s.lastSequence a.batch)
    rw [sequences_number, hLast] at hGrown
    exact Nat.le_of_eq hGrown

theorem HasRoom.mono {s : EventStore} {n events : Nat} (h : s.HasRoom events) (hn : n ≤ events) :
    s.HasRoom n :=
  Nat.lt_of_le_of_lt (Nat.add_le_add_left hn _) h

/-- **Room is taken up by what is offered** and by nothing else. -/
theorem HasRoom.attempts {s : EventStore} (as : List Attempt) {events : Nat}
    (h : s.HasRoom (offered as + events)) : (s.attempts as).HasRoom events := by
  induction as generalizing s with
  | nil => rwa [offered, Nat.zero_add] at h
  | cons a as ih =>
    have hLast := s.lastSequence_attempt_le a
    rw [HasRoom, offered] at h
    refine ih (s := (s.attempt a).2) ?_
    rw [HasRoom]
    omega

/-- **Whatever is attempted**, stream and log stay coherent. -/
theorem Coherent.attempts (h : s.Coherent) (as : List Attempt) : (s.attempts as).Coherent := by
  induction as generalizing s with
  | nil => exact h
  | cons a as ih => exact ih (h.attempt a)

/-- **After any attempts to append, streams and log go together**, every event of the log is in its
stream, and a further attempt is done in full or not at all. -/
theorem coherent_attempts (as : List Attempt) :
    let s := (empty : EventStore).attempts as
    s.Coherent ∧ (∀ e ∈ s.log, ∃ events, s.stream? e.aggregateId = some events ∧ e ∈ events) ∧
      ∀ a, s.AllOrNothing a := by
  intro s
  have hCoherent : s.Coherent := coherent_empty.attempts as
  refine ⟨hCoherent, fun e he => ?_, fun a => s.allOrNothing a⟩
  have hHeld := hCoherent.mem_held he
  rw [held] at hHeld
  cases hStream : s.stream? e.aggregateId with
  | none => rw [hStream] at hHeld; cases hHeld
  | some events => rw [hStream] at hHeld; exact ⟨events, rfl, hHeld⟩

end EventStore

end Galley
