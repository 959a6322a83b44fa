import Galley.Api.Body
import Galley.Client.Address
import Galley.Client.Complaint

/-!
# Calls

How the client calls the server: it sends a request to an address under the server's, checks that it
was carried out, and reads the body of the response as the record that it should be. Bodies are read
with the same shapes with which the server writes them.
-/

namespace Galley.Client

/-- A dialogue that may end in a complaint. -/
abbrev Session (α : Type) := ExceptT Complaint Dialogue α

namespace Session

/-- Ends in a complaint, unless there is a result. -/
def ofExcept {α : Type} : Except Complaint α → Session α
  | .ok x => pure x
  | .error complaint => throw complaint

/-- Takes one step of a dialogue. -/
def step {α : Type} (d : Dialogue α) : Session α := ExceptT.lift d

/-- Reads a file. -/
def load (path : String) : Session String := do
  match ← step (.load path .done) with
  | .ok text => return text
  | .error reason => throw (.unreadableFile path reason)

/-- Writes a file. -/
def save (path : String) (bytes : List UInt8) : Session Unit := do
  match ← step (.save path bytes .done) with
  | .ok () => return ()
  | .error reason => throw (.unwritableFile path reason)

end Session

-- ---------------------------------------------------------------------------
-- Sending
-- ---------------------------------------------------------------------------

/-- A request to be sent. -/
structure Call where
  method : String
  path : String
  body : Option Json

namespace Call

/-- A request for what is at a path. -/
def get (path : String) : Call := ⟨"GET", path, none⟩

/-- A request to delete what is at a path. -/
def delete (path : String) : Call := ⟨"DELETE", path, none⟩

/-- A request with a body to a path. -/
def post (path : String) (body : Json) : Call := ⟨"POST", path, some body⟩

/-- A request with a body for what is at a path. -/
def put (path : String) (body : Json) : Call := ⟨"PUT", path, some body⟩

/-- The request to an address. -/
def toRequest (c : Call) (address : String) : Request :=
  match c.body with
  | none => ⟨c.method, address, [], ""⟩
  | some body => ⟨c.method, address, [("content-type", "application/json")], body.toCompact⟩

/-- Sends a request to the server at a base address. -/
def send (base : String) (c : Call) : Dialogue (Except Causes Response) :=
  match Address.destination (base ++ c.path) with
  | .error fault => .done (.error fault.causes)
  | .ok address => .send (c.toRequest address) .done

end Call

-- ---------------------------------------------------------------------------
-- Answers
-- ---------------------------------------------------------------------------

/-- What the client makes of a refusal. -/
def complaintOf (r : Response) : Complaint :=
  let body := r.payload.toText
  match ErrorResponse.shape.parse body with
  | .ok data =>
    let error := (ErrorResponse.ofData data).error
    .refused r.status error.code error.message
  | .error _ => .refusedOtherwise r.status body

/-- The response, if it says that the request was carried out. -/
def checked (r : Response) : Except Complaint Response :=
  if r.isSuccess then .ok r else .error (complaintOf r)

/-- Reads the body of a response. -/
def readAnswer (shape : Json.Shape) (r : Response) : Except Complaint shape.Value :=
  let body := r.payload.toText
  match shape.parse body with
  | .ok data => .ok data
  | .error fault => .error (.unreadableAnswer (fault.message body.toList))

namespace Call

/-- Sends a request and checks the response. -/
def perform (base : String) (c : Call) : Session Response := do
  match ← Session.step (c.send base) with
  | .ok r => Session.ofExcept (checked r)
  | .error causes => throw (.unanswered causes)

/-- Sends a request, checks the response, and reads its body. -/
def ask (base : String) (c : Call) (shape : Json.Shape) : Session shape.Value := do
  match ← Session.step (c.send base) with
  | .ok r => Session.ofExcept (checked r >>= readAnswer shape)
  | .error causes => throw (.unansweredCall c.method (base ++ c.path) causes)

end Call

end Galley.Client
