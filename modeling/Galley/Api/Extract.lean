import Galley.Api.Body
import Galley.Api.Exchange
import Galley.Api.MediaType
import Galley.Text.Percent

/-!
# Taking requests apart

A request is refused before anything is done if the identifier in its path is none, or if its body
is not the JSON record it should be. The body is judged in this order: its media type, its size, its
text, its shape. Only the value that the body starts with is read.
-/

namespace Galley

/-- Why a request is refused. -/
inductive Rejection where
  | badPath (message : String)
  | wrongMediaType
  | tooLarge
  | malformedBody (message : String)
  | mismatchedBody (message : String)
  deriving DecidableEq, Repr

namespace Rejection

/-- The status of the response. -/
def status : Rejection → Nat
  | badPath _ => 400
  | wrongMediaType => 415
  | tooLarge => 413
  | malformedBody _ => 400
  | mismatchedBody _ => 422

/-- The text of the response. -/
def message : Rejection → String
  | badPath message => "Invalid URL: " ++ message
  | wrongMediaType => "Expected request with `Content-Type: application/json`"
  | tooLarge => "Failed to buffer the request body: length limit exceeded"
  | malformedBody message => "Failed to parse the request body as JSON: " ++ message
  | mismatchedBody message =>
    "Failed to deserialize the JSON body into the target type: " ++ message

/-- The response to a refused request. -/
def toResponse (r : Rejection) : Response := .ofText r.status r.message

/-- The rejection of a body with a fault. -/
def ofFault (text : List Char) (fault : Json.Fault) : Rejection :=
  let place := if fault.path.isEmpty then "" else Json.printPath fault.path ++ ": "
  let message := place ++ fault.message text
  match fault.reason.category with
  | .data => mismatchedBody message
  | _ => malformedBody message

end Rejection

/-- The largest body in bytes. -/
def bodyLimit : Nat := 2 * 1024 * 1024

namespace Request

/-- Whether the body is said to be JSON. -/
def hasJson (r : Request) : Bool :=
  match r.text? "content-type" >>= MediaType.read? with
  | some m => m.isJson
  | none => false

/-- The data of a shape that the body holds. -/
def readBody (r : Request) (shape : Json.Shape) : Except Rejection shape.Value :=
  if !r.hasJson then .error .wrongMediaType
  else if bodyLimit < r.body.utf8ByteSize then .error .tooLarge
  else
    let text := r.body.toList
    match shape.read (text.length + 1) Json.nestingLimit text with
    | .ok (data, _) => .ok data
    | .error fault => .error (.ofFault text fault)

end Request

/-- Reads the identifier in a path. -/
def readPathId (text : String) : Except Rejection Uuid :=
  match Text.percentDecode? text with
  | none => .error (.badPath "Invalid UTF-8 in `id`")
  | some text =>
    match Json.uuidOfText text with
    | .ok id => .ok id
    | .error cause => .error (.badPath cause.message)

end Galley
