import Galley.Json.Shape

/-!
# Failure codes

Every failure has a code. From the code alone follow the number and the status a client sees, the
category failures are counted under, how severe the failure is, whether trying again can help, and
whether it means that recorded history cannot be trusted.
-/

namespace Galley

/-- What kind of thing went wrong. -/
inductive Code where
  | validationError
  | templateNotFound
  | concurrencyConflict
  | corruptPatch
  | decodeError
  | unknownEventKind
  | eventStreamCorrupted
  | databaseError
  | databaseConnectionFailed
  | serializationError
  | renderFailed
  | renderToolUnavailable
  | configurationError
  | internalError
  deriving DecidableEq, Repr

/-- How severe a failure is. -/
inductive Severity where
  | low
  | medium
  | high
  | critical
  deriving DecidableEq, Repr

namespace Code

/-- All codes, in order. -/
def all : List Code :=
  [validationError, templateNotFound, concurrencyConflict, corruptPatch, decodeError,
    unknownEventKind, eventStreamCorrupted, databaseError, databaseConnectionFailed,
    serializationError, renderFailed, renderToolUnavailable, configurationError, internalError]

/-- The name of a code in messages and counts. -/
def name : Code → String
  | validationError => "ValidationError"
  | templateNotFound => "TemplateNotFound"
  | concurrencyConflict => "ConcurrencyConflict"
  | corruptPatch => "CorruptPatch"
  | decodeError => "DecodeError"
  | unknownEventKind => "UnknownEventKind"
  | eventStreamCorrupted => "EventStreamCorrupted"
  | databaseError => "DatabaseError"
  | databaseConnectionFailed => "DatabaseConnectionFailed"
  | serializationError => "SerializationError"
  | renderFailed => "RenderFailed"
  | renderToolUnavailable => "RenderToolUnavailable"
  | configurationError => "ConfigurationError"
  | internalError => "InternalError"

/-- The name of a code in responses. -/
def wireName : Code → String
  | validationError => "VALIDATION_ERROR"
  | templateNotFound => "TEMPLATE_NOT_FOUND"
  | concurrencyConflict => "CONCURRENCY_CONFLICT"
  | corruptPatch => "CORRUPT_PATCH"
  | decodeError => "DECODE_ERROR"
  | unknownEventKind => "UNKNOWN_EVENT_KIND"
  | eventStreamCorrupted => "EVENT_STREAM_CORRUPTED"
  | databaseError => "DATABASE_ERROR"
  | databaseConnectionFailed => "DATABASE_CONNECTION_FAILED"
  | serializationError => "SERIALIZATION_ERROR"
  | renderFailed => "RENDER_FAILED"
  | renderToolUnavailable => "RENDER_TOOL_UNAVAILABLE"
  | configurationError => "CONFIGURATION_ERROR"
  | internalError => "INTERNAL_ERROR"

/-- The number of a code; the thousands and hundreds are its category. -/
def number : Code → UInt32
  | validationError => 1000
  | templateNotFound => 1001
  | concurrencyConflict => 1002
  | corruptPatch => 1100
  | decodeError => 1101
  | unknownEventKind => 1102
  | eventStreamCorrupted => 1103
  | databaseError => 2000
  | databaseConnectionFailed => 2001
  | serializationError => 2200
  | renderFailed => 3000
  | renderToolUnavailable => 3001
  | configurationError => 5000
  | internalError => 9000

/-- The status of a response that reports the code. -/
def status : Code → Nat
  | validationError => 422
  | renderFailed => 422
  | templateNotFound => 404
  | concurrencyConflict => 409
  | databaseConnectionFailed => 503
  | renderToolUnavailable => 503
  | _ => 500

/-- Whether the same call may succeed later. -/
def retryable : Code → Bool
  | concurrencyConflict => true
  | databaseConnectionFailed => true
  | _ => false

/-- Whether the code means that recorded history cannot be trusted. -/
def isIntegrity : Code → Bool
  | corruptPatch => true
  | decodeError => true
  | unknownEventKind => true
  | eventStreamCorrupted => true
  | _ => false

/-- The category of a code. -/
def category : Code → String
  | validationError => "template"
  | templateNotFound => "template"
  | concurrencyConflict => "template"
  | corruptPatch => "integrity"
  | decodeError => "integrity"
  | unknownEventKind => "integrity"
  | eventStreamCorrupted => "integrity"
  | databaseError => "database"
  | databaseConnectionFailed => "database"
  | serializationError => "serialization"
  | renderFailed => "render"
  | renderToolUnavailable => "render"
  | configurationError => "configuration"
  | internalError => "internal"

/-- The severity of a code. -/
def severity : Code → Severity
  | validationError => .low
  | templateNotFound => .low
  | concurrencyConflict => .medium
  | renderFailed => .medium
  | renderToolUnavailable => .medium
  | databaseError => .high
  | databaseConnectionFailed => .high
  | serializationError => .high
  | configurationError => .high
  | _ => .critical

/-- The place of a code in `all`. -/
def index (c : Code) : Nat := all.idxOf c

/-- The names of the codes in responses, in order. -/
def wireNames : List String := all.map wireName

/-- The shape of a code. -/
abbrev shape : Json.Shape := .choice wireNames

/-- Every code has a place among the names. -/
theorem index_lt (c : Code) : c.index < wireNames.length := by cases c <;> decide

/-- The code as data of its shape. -/
def toData (c : Code) : shape.Value := ⟨c.index, c.index_lt⟩

/-- The code that data of its shape stands for. -/
def ofData (i : shape.Value) : Code := all.get i

/-- A code is read back as itself. -/
theorem ofData_toData (c : Code) : ofData c.toData = c := by cases c <;> rfl

end Code

namespace Severity

/-- All severities, in order. -/
def all : List Severity := [low, medium, high, critical]

/-- The name of a severity. -/
def name : Severity → String
  | low => "low"
  | medium => "medium"
  | high => "high"
  | critical => "critical"

/-- The shape of a severity. -/
abbrev shape : Json.Shape := .choice (all.map name)

end Severity

end Galley
