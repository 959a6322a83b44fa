import Galley.Api.Extract
import Galley.Api.Route

/-!
# Handlers

What each route does with a request. A handler takes the request apart, calls the service, and makes
a response of what comes back; a failure becomes a response with the status of its code and a body
that holds nothing meant for the operator.
-/

namespace Galley

/-- Identifiers nobody has used, drawn one by one: for a template that a request creates, and for
the request itself. -/
structure FreshIds where
  template : Uuid
  request : Uuid

/-- Where nobody compares the two, one identifier may stand for both. -/
instance : Coe Uuid FreshIds := ⟨fun id => ⟨id, id⟩⟩

/-- What a request meets: the time, identifiers nobody has used, the list that clients read, and the
renderer. -/
structure Surroundings where
  now : Instant
  fresh : FreshIds
  model : ReadModel
  renderer : Renderer

/-- The version of the program. -/
def programVersion : String := "0.1.0"

namespace Handler

/-- The response to a failure. -/
def failureResponse (now : Instant) (f : Failure) : Response :=
  .ofJson f.code.status (ErrorResponse.ofReport now f.report).toJson

/-- The response of an operation. -/
def respond {α : Type} (now : Instant) (op : Operation α) (answer : α → Response) :
    StateM Backend Response := do
  match ← op.run with
  | .ok x => return answer x
  | .error f => return failureResponse now f

/-- Goes on with what was taken from a request, unless the request is refused. -/
def accept {α : Type} (taken : Except Rejection α) (next : α → StateM Backend Response) :
    StateM Backend Response :=
  match taken with
  | .ok x => next x
  | .error r => return r.toResponse

/-- A response that holds a template. -/
def templateResponse (status : Nat) (t : Template) : Response :=
  .ofJson status (TemplateResponse.shape.encode (TemplateResponse.toData t))

/-- Whether the program is well. A projection that has halted no longer follows writes, and then it
is not. -/
def health (s : Surroundings) : Response :=
  let timestamp := Json.string (Time.printWithOffset s.now)
  match s.model.halted with
  | none =>
    .ofJson 200 (.object [
      ("status", .string "ok"),
      ("version", .string programVersion),
      ("projection", .object [("status", .string "running")]),
      ("timestamp", timestamp)])
  | some code =>
    .ofJson 503 (.object [
      ("status", .string "degraded"),
      ("version", .string programVersion),
      ("projection",
        .object [("status", .string "halted"), ("errorCode", .string code.wireName)]),
      ("timestamp", timestamp)])

/-- The page of measures of a program that has been told to keep none. It is empty, whatever the
tally says; of a program that keeps them it would hold them all, in the text format of version
0.0.4, which is not told here. -/
def metrics : Response :=
  ⟨200, [("content-type", "text/plain; version=0.0.4; charset=utf-8")], .empty⟩

/-- The list of templates. -/
def list (s : Surroundings) : Response :=
  .ofJson 200 (ListResponse.shape.encode (ListResponse.toData (Service.list s.model)))

/-- Creates a template. -/
def create (s : Surroundings) (r : Request) : StateM Backend Response :=
  accept (r.readBody CreateRequest.shape) fun data =>
    let body := CreateRequest.ofData data
    respond s.now (Service.create s.now s.fresh.template body.name body.description body.content)
      (templateResponse 201)

/-- Shows a template. -/
def get (s : Surroundings) (id : String) : StateM Backend Response :=
  accept (readPathId id) fun id => respond s.now (Service.get id) (templateResponse 200)

/-- Changes a template. The identifier is looked at before the body. -/
def update (s : Surroundings) (id : String) (r : Request) : StateM Backend Response :=
  accept (readPathId id) fun id =>
    accept (r.readBody UpdateRequest.shape) fun data =>
      let body := UpdateRequest.ofData data
      respond s.now
        (Service.update s.now id body.name body.description body.content body.expected)
        (templateResponse 200)

/-- Archives a template. -/
def archive (s : Surroundings) (id : String) : StateM Backend Response :=
  accept (readPathId id) fun id =>
    respond s.now (Service.archive s.now id) fun _ => .plain 204

/-- Shows a template's history. -/
def history (s : Surroundings) (id : String) : StateM Backend Response :=
  accept (readPathId id) fun id =>
    respond s.now (Service.history id) fun entries =>
      .ofJson 200 (HistoryResponse.shape.encode (HistoryResponse.toData ⟨id, entries⟩))

/-- A rendered document. -/
def document (bytes : List UInt8) : Response :=
  ⟨200,
    [("content-type", "application/pdf"),
      ("content-disposition", "inline; filename=\"preview.pdf\"")],
    .bytes bytes⟩

/-- Renders a source. -/
def preview (s : Surroundings) (r : Request) : StateM Backend Response :=
  accept (r.readBody PreviewRequest.shape) fun data =>
    let body := PreviewRequest.ofData data
    let op :=
      if body.source.toList.all Text.isBlank then Operation.fail .blankSource
      else Service.toPdf s.renderer body.source body.values
    respond s.now op document

/-- What a route does with a request of a method that it takes. -/
def run (s : Surroundings) (r : Request) : Route → StateM Backend Response
  | .health => return health s
  | .metrics => return metrics
  | .templates => if r.method = "POST" then create s r else return list s
  | .preview => preview s r
  | .template id =>
    if r.method = "PUT" then update s id r
    else if r.method = "DELETE" then archive s id
    else get s id
  | .history id => history s id

end Handler

end Galley
