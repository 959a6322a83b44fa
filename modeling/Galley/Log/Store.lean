import Galley.Log.Event

/-!
# The event store

An append-only store of events. It keeps the stream of every aggregate and a log of all events in
the order in which they were appended. An append names the version that the writer has seen; when
the stream has moved on it is refused, and nothing changes.

Reading the log from a position on looks for that position by halving. On a log whose sequences do
not increase, which only records placed as they are can bring about, that search may stop anywhere.
-/

namespace Galley

/-- A store of events. -/
structure EventStore where
  streams : List (Uuid × List StoredEvent)
  log : List StoredEvent

namespace EventStore

/-- The store without events. -/
def empty : EventStore := ⟨[], []⟩

instance : Inhabited EventStore := ⟨empty⟩

/-- The stream of an aggregate, if there is one. -/
def stream? (s : EventStore) (id : Uuid) : Option (List StoredEvent) := s.streams.lookup id

/-- The number of events in the stream of an aggregate. -/
def currentVersion (s : EventStore) (id : Uuid) : Nat := ((s.stream? id).getD []).length

/-- Replaces a stream, or adds it behind the others. -/
def putStream (id : Uuid) (events : List StoredEvent) :
    List (Uuid × List StoredEvent) → List (Uuid × List StoredEvent)
  | [] => [(id, events)]
  | (other, held) :: rest =>
    if other = id then (id, events) :: rest else (other, held) :: putStream id events rest

/-- The store with its stream of an aggregate replaced. -/
def withStream (s : EventStore) (id : Uuid) (events : List StoredEvent) : EventStore :=
  { s with streams := putStream id events s.streams }

/-- The sequence of the last event in the log; zero without one. -/
def lastSequence (s : EventStore) : Nat := (s.log.getLast?.map StoredEvent.sequence).getD 0

/-- The records of a batch: versions and sequences go on from the given ones. They are counted
without end, where words of 64 bits would begin again at zero behind the largest one. -/
def number (id : Uuid) (now : Instant) : (version sequence : Nat) → List NewEvent → List StoredEvent
  | _, _, [] => []
  | version, sequence, e :: rest =>
    ⟨e.aggregateType, id, version + 1, sequence + 1, e.kind, e.payload, now⟩
      :: number id now (version + 1) (sequence + 1) rest

/-- Appends a batch to the stream of an aggregate, on top of the version that the writer expects.
Gives the new version. -/
def append (s : EventStore) (now : Instant) (id : Uuid) (expected : Nat) (batch : List NewEvent) :
    Except Failure Nat × EventStore :=
  if batch.isEmpty then (.error (.emptyBatch id), s)
  else match s.stream? id with
    | none =>
      if expected ≠ 0 then (.error (.conflict id expected 0), s)
      else
        let records := number id now 0 s.lastSequence batch
        (.ok records.length, { s.withStream id records with log := s.log ++ records })
    | some held =>
      if held.length ≠ expected then (.error (.conflict id expected held.length), s)
      else
        let records := number id now held.length s.lastSequence batch
        (.ok (held ++ records).length,
          { s.withStream id (held ++ records) with log := s.log ++ records })

/-- Places a record as it is, whatever its version and sequence. -/
def place (s : EventStore) (event : StoredEvent) : EventStore :=
  let held := (s.stream? event.aggregateId).getD []
  { s.withStream event.aggregateId (held ++ [event]) with log := s.log ++ [event] }

/-- The events of an aggregate, oldest first. -/
def load (s : EventStore) (id : Uuid) : Except Failure (List StoredEvent) :=
  match s.stream? id with
  | some (e :: rest) => .ok (e :: rest)
  | _ => .error (.notFound id)

/-- Halves the stretch `[base, base + size)` of the log until one event is left, and gives the place
of the first event above a position in a log in order. The fuel bounds the size. -/
def halve (log : Array StoredEvent) (position : Nat) : (fuel base size : Nat) → Nat
  | 0, base, _ => base
  | fuel + 1, base, size =>
    let reached (i : Nat) : Bool := log[i]?.any fun e => e.sequence ≤ position
    if size ≤ 1 then if reached base then base + 1 else base
    else
      let middle := base + size / 2
      halve log position fuel (if reached middle then middle else base) (size - size / 2)

/-- How many events of the log lie at or below a position. -/
def firstAbove (s : EventStore) (position : Nat) : Nat :=
  halve s.log.toArray position (s.log.length + 1) 0 s.log.length

/-- At most `limit` events of the log above a position, in order. -/
def loadSince (s : EventStore) (position limit : Nat) : List StoredEvent :=
  (s.log.drop (s.firstAbove position)).take limit

end EventStore

end Galley
