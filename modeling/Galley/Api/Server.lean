import Galley.Api.Handler

/-!
# The server

Around the handlers stand the things every request goes through.

* Requests from other origins: every response says which origins may read it, and an `OPTIONS`
  request is answered right away, whatever its path.
* Every other response carries the identifier of its request, or a fresh one if the request had none
  that can be shown.
* Requests whose path is a route are counted under the route's label.
-/

namespace Galley

/-- The server: which origins may read its responses; without any, all may. -/
structure Server where
  origins : List String

namespace Server

/-- The headers that decide whether a response fits another request. -/
def varyingHeaders : String :=
  "origin, access-control-request-method, access-control-request-headers"

/-- Whether an origin can stand in a header. -/
def isUsable (origin : String) : Bool := origin.toList.all Request.isVisible

/-- The origin that may read the response, if any. -/
def allowedOrigin (s : Server) (r : Request) : Option String :=
  if s.origins.isEmpty then some "*"
  else (r.header? "origin").filter fun origin => origin ∈ s.origins.filter isUsable

/-- Says who may read a response. -/
def withOrigin (s : Server) (r : Request) (response : Response) : Response :=
  let response := response.withHeader "vary" varyingHeaders
  match s.allowedOrigin r with
  | some origin => response.withHeader "access-control-allow-origin" origin
  | none => response

/-- Says which methods a route takes. -/
def withMethods (route : Route) (response : Response) : Response :=
  response.withHeader "allow" (String.intercalate "," route.methods)

/-- The answer to the question what may be asked. -/
def preflight (route : Option Route) : Response :=
  let response := ((Response.plain 200).withHeader "access-control-allow-methods" "*").withHeader
    "access-control-allow-headers" "*"
  match route with
  | some route => withMethods route response
  | none => response

/-- Counts a request under its route. -/
def count (r : Request) (route : Route) (status : Nat) : StateM Backend Unit :=
  modify fun b =>
    (b.count (.requests r.method route.label status) 1).count
      (.requestDurations r.method route.label status) 1

/-- Answers a request whose path is a route. -/
def serveRoute (env : Surroundings) (r : Request) (route : Route) : StateM Backend Response := do
  let response ←
    if r.method ∈ route.methods then Handler.run env r route
    else pure (withMethods route (.plain 405))
  count r route response.status
  return response

/-- The identifier that the response carries. -/
def requestId (env : Surroundings) (r : Request) : String :=
  (r.text? "x-request-id").getD env.fresh.request.toText

/-- Answers a request. -/
def serve (s : Server) (env : Surroundings) (r : Request) : StateM Backend Response := do
  let route := Route.ofPath? r.path
  if r.method = "OPTIONS" then return s.withOrigin r (preflight route)
  else
    let response ← match route with
      | some route => serveRoute env r route
      | none => pure (.plain 404)
    let response := if r.method = "HEAD" then response.withoutBody else response
    return s.withOrigin r (response.withHeader "x-request-id" (requestId env r))

end Server

end Galley
