import Galley.Failure.Code
import Galley.Patch

/-!
# Failures

A failure is a cause. What is said about it follows from the cause: its code, a message that a
client may see, a message for the operator, and details. `Failure.report` is the one place where
that is written.

Causes that mean that recorded history cannot be trusted share one client message and have no
details, so nothing of the history reaches a client.
-/

namespace Galley

-- ---------------------------------------------------------------------------
-- Reports
-- ---------------------------------------------------------------------------

/-- What is told about a failure besides its message. -/
structure Details where
  context : List (String × Json)
  entityId : Option String
  entityType : Option String
  suggestedAction : Option String

namespace Details

/-- No details. -/
def none : Details := ⟨[], .none, .none, .none⟩

/-- The details with the thing the failure is about. -/
def withEntity (d : Details) (type id : String) : Details :=
  { d with entityId := some id, entityType := some type }

/-- The details with one more named value. -/
def withContext (d : Details) (name : String) (value : Json) : Details :=
  { d with context := Json.insertMember name value d.context }

/-- The details with advice. -/
def withSuggestion (d : Details) (action : String) : Details :=
  { d with suggestedAction := some action }

/-- Whether there is nothing to tell. A type without an identifier tells nothing. -/
def isEmpty (d : Details) : Bool :=
  d.context.isEmpty && d.entityId.isNone && d.suggestedAction.isNone

/-- The shape of details. -/
abbrev shape : Json.Shape :=
  .record "ErrorDetails"
    (.cons "context" .optional (.table .json)
      (.cons "entityId" .required (.nullable .text)
        (.cons "entityType" .required (.nullable .text)
          (.cons "suggestedAction" .required (.nullable .text) .nil))))

/-- The details as data of their shape. -/
def toData (d : Details) : shape.Value :=
  (if d.context.isEmpty then .none else some d.context, d.entityId, d.entityType,
    d.suggestedAction, ())

/-- The details that data of their shape stand for. -/
def ofData : shape.Value → Details
  | (context, entityId, entityType, suggestedAction, ()) =>
    ⟨context.getD [], entityId, entityType, suggestedAction⟩

/-- The details as JSON; what is unset is left out. -/
def toJson (d : Details) : Json := shape.encode d.toData

end Details

/-- What is said about a failure. -/
structure Report where
  code : Code
  message : String
  internal : Option String
  details : Details
  source : Option String

namespace Report

/-- A report with a message for clients only. -/
def plain (code : Code) (message : String) : Report := ⟨code, message, none, .none, none⟩

/-- A report with a message for clients and one for the operator. -/
def withInternal (code : Code) (message internal : String) : Report :=
  ⟨code, message, some internal, .none, none⟩

/-- Something went wrong inside. -/
def internalError (internal : String) : Report :=
  withInternal .internalError "An internal error occurred" internal

/-- The input breaks a rule. -/
def validation (message : String) : Report := plain .validationError message

/-- There is no such template. -/
def templateNotFound (id : Uuid) : Report :=
  { plain .templateNotFound ("Template not found: " ++ id.toText) with
    details := Details.none.withEntity "template" id.toText }

/-- The stream has moved on. -/
def concurrencyConflict (id : Uuid) (expected actual : Nat) : Report :=
  { plain .concurrencyConflict
      ("Template " ++ id.toText ++ " was modified concurrently (expected version "
        ++ toString expected ++ ", found " ++ toString actual ++ ")") with
    details := (((Details.none.withEntity "template" id.toText).withContext "expectedVersion"
      (Json.nat expected)).withContext "actualVersion" (Json.nat actual)).withSuggestion
        "Reload the template and reapply the change" }

/-- Recorded history cannot be trusted. The reason is for the operator alone. -/
def untrustedHistory (code : Code) (reason : String) : Report :=
  withInternal code "Template history could not be reconstructed" reason

/-- An event is of a kind nobody knows. -/
def unknownEventKind (aggregateType kind : String) : Report :=
  untrustedHistory .unknownEventKind
    ("unknown event kind '" ++ kind ++ "' for aggregate type '" ++ aggregateType ++ "'")

/-- The source cannot be rendered. -/
def renderFailed (reason : String) : Report :=
  withInternal .renderFailed "Template could not be rendered" reason

/-- The renderer cannot be started. -/
def renderUnavailable (reason : String) : Report :=
  withInternal .renderToolUnavailable "PDF rendering is currently unavailable" reason

/-- An input is no JSON, or JSON of another shape. -/
def unreadableJson (message : String) : Report :=
  { withInternal .decodeError "Failed to process JSON data" message with source := some message }

/-- Reading or writing failed. -/
def ioError (message : String) : Report :=
  { withInternal .internalError "An I/O error occurred" message with source := some message }

/-- The report on one line, the operator's message included. -/
def display (r : Report) : String :=
  "[" ++ r.code.name ++ "] " ++ r.message
    ++ (match r.internal with
      | some internal => " (internal: " ++ internal ++ ")"
      | none => "")

end Report

-- ---------------------------------------------------------------------------
-- Causes
-- ---------------------------------------------------------------------------

/-- Why an operation failed. -/
inductive Failure where
  /-- A store is out of order and says no more than this. -/
  | outage (code : Code) (message : String)
  /-- A template needs a name. -/
  | blankName
  /-- A preview needs a source. -/
  | blankSource
  /-- A batch of events to append holds none. -/
  | emptyBatch (id : Uuid)
  /-- A template has no events. -/
  | notFound (id : Uuid)
  /-- A stream has another length than the writer expects. -/
  | conflict (id : Uuid) (expected actual : Nat)
  /-- An event stands in the stream of another aggregate. -/
  | foreignEvent (sequence : Nat) (owner id : Uuid)
  /-- An event does not have the version that follows the one before it. -/
  | wrongVersion (id : Uuid) (expected found : Nat)
  /-- An event is not a template's. -/
  | foreignType (version : Nat) (id : Uuid) (type : String)
  /-- An event is of a kind nobody knows. -/
  | unknownKind (kind : String)
  /-- An event's payload does not have the shape of its kind. -/
  | unreadablePayload (kind : String) (cause : Json.Mismatch)
  /-- A template is created a second time. -/
  | createdTwice (id : Uuid) (version : Nat)
  /-- A template is changed before it is created. -/
  | notCreated (id : Uuid) (kind : String)
  /-- A content patch cannot be carried out. -/
  | patch (cause : Patch.Failure)
  /-- A content patch leads to a text that is no content. -/
  | patchedContent (message : String)
  /-- The log changes a template that it never created. -/
  | neverCreated (kind : String) (sequence : Nat) (id : Uuid)
  /-- A checkpoint's state is no list of summaries. -/
  | unreadableCheckpoint (name : String) (cause : Json.Mismatch)
  /-- The renderer cannot be started. -/
  | renderUnavailable (reason : String)
  /-- The renderer cannot be run. -/
  | renderBroken (reason : String)
  /-- The renderer failed. -/
  | renderFailed (reason : String)
  /-- An input is not the JSON it should be. -/
  | unreadable (message : String)
  deriving Repr, DecidableEq

namespace Failure

/-- What is said about a failure. -/
def report : Failure → Report
  | outage code message => .plain code message
  | blankName => .validation "Template name is required"
  | blankSource => .validation "typstCode is required"
  | emptyBatch id =>
    { Report.validation "Cannot append an empty event batch" with
      details := Details.none.withContext "aggregateId" (.string id.toText) }
  | notFound id => .templateNotFound id
  | conflict id expected actual => .concurrencyConflict id expected actual
  | foreignEvent sequence owner id =>
    .untrustedHistory .eventStreamCorrupted
      ("event " ++ toString sequence ++ " belongs to aggregate " ++ owner.toText ++ ", not "
        ++ id.toText)
  | wrongVersion id expected found =>
    .untrustedHistory .eventStreamCorrupted
      ("aggregate " ++ id.toText ++ " expected version " ++ toString expected ++ ", found "
        ++ toString found)
  | foreignType version id type =>
    .untrustedHistory .eventStreamCorrupted
      ("event " ++ toString version ++ " of aggregate " ++ id.toText ++ " has type '" ++ type
        ++ "', expected 'template'")
  | unknownKind kind => .unknownEventKind "template" kind
  | unreadablePayload kind cause =>
    .untrustedHistory .decodeError ("invalid " ++ kind ++ " payload: " ++ cause.message)
  | createdTwice id version =>
    .untrustedHistory .eventStreamCorrupted
      ("template " ++ id.toText ++ " received TemplateCreated at version " ++ toString version)
  | notCreated id kind =>
    .untrustedHistory .eventStreamCorrupted
      ("template " ++ id.toText ++ " received " ++ kind ++ " before TemplateCreated")
  | patch cause => .untrustedHistory .corruptPatch cause.message
  | patchedContent message =>
    .untrustedHistory .decodeError ("patched content is not valid: " ++ message)
  | neverCreated kind sequence id =>
    .untrustedHistory .eventStreamCorrupted
      (kind ++ " at sequence " ++ toString sequence ++ " for template " ++ id.toText
        ++ " that was never created")
  | unreadableCheckpoint name cause =>
    .untrustedHistory .decodeError
      ("checkpoint '" ++ name ++ "' state is unreadable: " ++ cause.message)
  | renderUnavailable reason => .renderUnavailable reason
  | renderBroken reason => .ioError reason
  | renderFailed reason => .renderFailed reason
  | unreadable message => .unreadableJson message

/-- The code of a failure. -/
def code (f : Failure) : Code := f.report.code

end Failure

end Galley
