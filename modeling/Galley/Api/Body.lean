import Galley.Service

/-!
# Bodies of requests and responses

The JSON records that a client and the server exchange. Each has a shape, and what one side encodes
the other side decodes.

The body of a response that reports a failure holds its code, its message for clients and its
details, and nothing that is meant for the operator.
-/

namespace Galley

-- ---------------------------------------------------------------------------
-- Requests
-- ---------------------------------------------------------------------------

/-- What is needed to create a template. -/
structure CreateRequest where
  name : String
  description : String
  content : Content

namespace CreateRequest

/-- The shape of the request; description and content may be left out. -/
abbrev shape : Json.Shape :=
  .record "CreateTemplateRequest"
    (.cons "name" .required .text
      (.cons "description" .optional .text (.cons "content" .optional Content.shape .nil)))

/-- The request as data of its shape. -/
def toData (r : CreateRequest) : shape.Value :=
  (r.name, some r.description, some r.content.toData, ())

/-- The request that data of its shape stands for. -/
def ofData : shape.Value → CreateRequest
  | (name, description, content, ()) =>
    ⟨name, description.getD "", (content.map Content.ofData).getD .empty⟩

end CreateRequest

/-- What is needed to change a template. -/
structure UpdateRequest where
  name : String
  description : String
  content : Content
  expected : Option Nat

namespace UpdateRequest

/-- The shape of the request; all but the name may be left out. -/
abbrev shape : Json.Shape :=
  .record "UpdateTemplateRequest"
    (.cons "name" .required .text
      (.cons "description" .optional .text
        (.cons "content" .optional Content.shape
          (.cons "expectedVersion" .optional (.nullable .word64) .nil))))

/-- The request as data of its shape. -/
def toData (r : UpdateRequest) : shape.Value :=
  (r.name, some r.description, some r.content.toData, some r.expected, ())

/-- The request that data of its shape stands for. -/
def ofData : shape.Value → UpdateRequest
  | (name, description, content, expected, ()) =>
    ⟨name, description.getD "", (content.map Content.ofData).getD .empty, expected.join⟩

end UpdateRequest

/-- What is needed to preview a source. -/
structure PreviewRequest where
  source : String
  values : Placeholder.Variables

namespace PreviewRequest

/-- The shape of the request; the values may be left out. -/
abbrev shape : Json.Shape :=
  .record "PreviewRequest"
    (.cons "typstCode" .required .text (.cons "variables" .optional (.table .text) .nil))

/-- The request as data of its shape. -/
def toData (r : PreviewRequest) : shape.Value := (r.source, some r.values, ())

/-- The request that data of its shape stands for. -/
def ofData : shape.Value → PreviewRequest
  | (source, values, ()) => ⟨source, values.getD []⟩

end PreviewRequest

-- ---------------------------------------------------------------------------
-- Responses
-- ---------------------------------------------------------------------------

namespace TemplateResponse

/-- The shape of a response that holds a template. -/
abbrev shape : Json.Shape :=
  .record "TemplateResponse" (.cons "template" .required Template.shape .nil)

/-- The response as data of its shape. -/
def toData (t : Template) : shape.Value := (t.toData, ())

/-- The template in a response. -/
def ofData : shape.Value → Template
  | (t, ()) => Template.ofData t

end TemplateResponse

namespace ListResponse

/-- The shape of a response that holds the list of templates. -/
abbrev shape : Json.Shape :=
  .record "ListTemplatesResponse" (.cons "templates" .required (.list Summary.shape) .nil)

/-- The response as data of its shape. -/
def toData (rows : List Summary) : shape.Value := (rows.map Summary.toData, ())

/-- The list in a response. -/
def ofData : shape.Value → List Summary
  | (rows, ()) => rows.map Summary.ofData

end ListResponse

/-- A template's history. -/
structure HistoryResponse where
  id : Uuid
  entries : List HistoryEntry

namespace HistoryResponse

/-- The shape of a response that holds a history. -/
abbrev shape : Json.Shape :=
  .record "HistoryResponse"
    (.cons "templateId" .required .uuid
      (.cons "events" .required (.list HistoryEntry.shape) .nil))

/-- The response as data of its shape. -/
def toData (r : HistoryResponse) : shape.Value := (r.id, r.entries.map HistoryEntry.toData, ())

/-- The response that data of its shape stands for. -/
def ofData : shape.Value → HistoryResponse
  | (id, entries, ()) => ⟨id, entries.map HistoryEntry.ofData⟩

end HistoryResponse

-- ---------------------------------------------------------------------------
-- Failures
-- ---------------------------------------------------------------------------

/-- What a response says about a failure. -/
structure ErrorInfo where
  code : Code
  number : UInt32
  message : String
  details : Option Details
  timestamp : Instant

namespace ErrorInfo

/-- The shape of the report. -/
abbrev shape : Json.Shape :=
  .record "ErrorInfo"
    (.cons "code" .required Code.shape
      (.cons "numericCode" .required .word32
        (.cons "message" .required .text
          (.cons "details" .required (.nullable Details.shape)
            (.cons "timestamp" .required .instant .nil)))))

/-- The report as data of its shape. -/
def toData (e : ErrorInfo) : shape.Value :=
  (e.code.toData, e.number, e.message, e.details.map Details.toData, e.timestamp, ())

/-- The report that data of its shape stands for. -/
def ofData : shape.Value → ErrorInfo
  | (code, number, message, details, timestamp, ()) =>
    ⟨Code.ofData code, number, message, details.map Details.ofData, timestamp⟩

/-- What a client is told about a failure. -/
def ofReport (now : Instant) (r : Report) : ErrorInfo :=
  ⟨r.code, r.code.number, r.message, if r.details.isEmpty then none else some r.details, now⟩

end ErrorInfo

/-- The body of a response that reports a failure. -/
structure ErrorResponse where
  success : Bool
  error : ErrorInfo

namespace ErrorResponse

/-- The shape of the body. -/
abbrev shape : Json.Shape :=
  .record "ErrorResponse"
    (.cons "success" .required .flag (.cons "error" .required ErrorInfo.shape .nil))

/-- The body as data of its shape. -/
def toData (r : ErrorResponse) : shape.Value := (r.success, r.error.toData, ())

/-- The body that data of its shape stands for. -/
def ofData : shape.Value → ErrorResponse
  | (success, error, ()) => ⟨success, ErrorInfo.ofData error⟩

/-- The body that tells a client about a failure. -/
def ofReport (now : Instant) (r : Report) : ErrorResponse := ⟨false, ErrorInfo.ofReport now r⟩

/-- The body as JSON. -/
def toJson (r : ErrorResponse) : Json := shape.encode r.toData

end ErrorResponse

end Galley
