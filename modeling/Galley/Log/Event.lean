import Galley.Failure

/-!
# Events of a log

An event as the log records it. Its payload is JSON that the log does not look into. Within the
stream of one aggregate, events are numbered by their *version*; in the whole log, by their
*sequence*.
-/

namespace Galley

/-- An event to be appended. The log gives it a version and a sequence. -/
structure NewEvent where
  aggregateType : String
  kind : String
  payload : Json
  occurredAt : Instant

/-- A recorded event. -/
structure StoredEvent where
  aggregateType : String
  aggregateId : Uuid
  version : Nat
  sequence : Nat
  kind : String
  payload : Json
  recordedAt : Instant

namespace NewEvent

/-- The shape of an event to be appended. -/
abbrev shape : Json.Shape :=
  .record "NewEvent"
    (.cons "aggregate_type" .required .text
      (.cons "kind" .required .text
        (.cons "payload" .required .json
          (.cons "occurred_at" .required .instant .nil))))

/-- The event as data of its shape. -/
def toData (e : NewEvent) : shape.Value :=
  (e.aggregateType, e.kind, e.payload, e.occurredAt, ())

/-- The event that data of its shape stands for. -/
def ofData : shape.Value → NewEvent
  | (aggregateType, kind, payload, occurredAt, ()) =>
    ⟨aggregateType, kind, payload, occurredAt⟩

/-- The event as JSON. -/
def toJson (e : NewEvent) : Json := shape.encode e.toData

end NewEvent

namespace StoredEvent

/-- The shape of a recorded event. -/
abbrev shape : Json.Shape :=
  .record "StoredEvent"
    (.cons "aggregate_type" .required .text
      (.cons "aggregate_id" .required .uuid
        (.cons "version" .required .word64
          (.cons "global_sequence" .required .word64
            (.cons "kind" .required .text
              (.cons "payload" .required .json
                (.cons "recorded_at" .required .instant .nil)))))))

/-- The event as data of its shape. -/
def toData (e : StoredEvent) : shape.Value :=
  (e.aggregateType, e.aggregateId, e.version, e.sequence, e.kind, e.payload, e.recordedAt, ())

/-- The event that data of its shape stands for. -/
def ofData : shape.Value → StoredEvent
  | (aggregateType, aggregateId, version, sequence, kind, payload, recordedAt, ()) =>
    ⟨aggregateType, aggregateId, version, sequence, kind, payload, recordedAt⟩

/-- The event as JSON. -/
def toJson (e : StoredEvent) : Json := shape.encode e.toData

end StoredEvent

end Galley
