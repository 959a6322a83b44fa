import Galley.Json.Printer
import Galley.Text.Bytes

/-!
# Requests and responses

What goes over the wire: a request with a method, a target, headers and a body, and a response with
a status, headers and a body. Header names are in small letters.
-/

namespace Galley

/-- A request. -/
structure Request where
  method : String
  target : String
  headers : List (String × String)
  body : String

namespace Request

/-- The value of a header. -/
def header? (r : Request) (name : String) : Option String := r.headers.lookup name

/-- Drops a scheme and a host off the front of a target. -/
def dropHost (cs : List Char) : List Char :=
  if cs.head? = some '/' then cs
  else
    let scheme := cs.takeWhile (· != ':')
    match cs.drop scheme.length with
    | ':' :: '/' :: '/' :: rest => rest.dropWhile fun c => c != '/' && c != '?' && c != '#'
    | _ => cs

/-- The path of the target: no host, no query, no fragment. -/
def path (r : Request) : String :=
  match (dropHost r.target.toList).takeWhile fun c => c != '?' && c != '#' with
  | [] => "/"
  | cs => String.ofList cs

/-- Whether a character of a header's value can be shown as text. -/
def isVisible (c : Char) : Bool := (32 ≤ c.toNat && c.toNat < 127) || c == '\t'

/-- The value of a header, if it can be shown as text. -/
def text? (r : Request) (name : String) : Option String :=
  (r.header? name).filter fun value => value.toList.all isVisible

end Request

/-- The body of a response. -/
inductive Payload where
  | empty
  | json (value : Json)
  | text (value : String)
  | bytes (value : List UInt8)

namespace Payload

/-- The bytes of a body. -/
def toBytes : Payload → List UInt8
  | empty => []
  | json value => Text.encode value.toCompact
  | text value => Text.encode value
  | bytes value => value

/-- The body as text; bytes that are none are replaced. -/
def toText : Payload → String
  | empty => ""
  | json value => value.toCompact
  | text value => value
  | bytes value => Text.decodeLossy value

end Payload

/-- A response. -/
structure Response where
  status : Nat
  headers : List (String × String)
  payload : Payload

namespace Response

/-- A response without a body. -/
def plain (status : Nat) : Response := ⟨status, [], .empty⟩

/-- A response with a JSON body. -/
def ofJson (status : Nat) (value : Json) : Response :=
  ⟨status, [("content-type", "application/json")], .json value⟩

/-- A response with a text for its body. -/
def ofText (status : Nat) (value : String) : Response :=
  ⟨status, [("content-type", "text/plain; charset=utf-8")], .text value⟩

/-- The value of a header. -/
def header? (r : Response) (name : String) : Option String := r.headers.lookup name

/-- The response with one more header. -/
def withHeader (r : Response) (name value : String) : Response :=
  { r with headers := r.headers ++ [(name, value)] }

/-- The response without its body. -/
def withoutBody (r : Response) : Response := { r with payload := .empty }

/-- Whether the request was carried out. -/
def isSuccess (r : Response) : Bool := 200 ≤ r.status && r.status < 300

end Response

end Galley
