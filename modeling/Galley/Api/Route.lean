import Galley.Api.Exchange

/-!
# Routes

The paths the server knows. A route says which methods it takes, and has a template, under which its
requests are counted whatever identifier they name. A fixed path wins over one with an identifier.
-/

namespace Galley

/-- A path that the server knows. An identifier stands in it as it was sent. -/
inductive Route where
  | health
  | metrics
  | templates
  | preview
  | template (id : String)
  | history (id : String)
  deriving DecidableEq, Repr

namespace Route

/-- The parts of a path, parted by slashes. -/
def segments (path : String) : List String := (path.toList.splitOn '/').map String.ofList

/-- The route of a path. An identifier at its end is never empty. -/
def ofPath? (path : String) : Option Route :=
  match segments path with
  | ["", "metrics"] => some metrics
  | ["", "api", "health"] => some health
  | ["", "api", "templates"] => some templates
  | ["", "api", "templates", "preview"] => some preview
  | ["", "api", "templates", id] => if id.isEmpty then none else some (template id)
  | ["", "api", "templates", id, "history"] => some (history id)
  | _ => none

/-- The path under which the requests of a route are counted. -/
def label : Route → String
  | health => "/api/health"
  | metrics => "/metrics"
  | templates => "/api/templates"
  | preview => "/api/templates/preview"
  | template _ => "/api/templates/:id"
  | history _ => "/api/templates/:id/history"

/-- The methods that a route takes. Where there is `GET` there is `HEAD`, which asks for the same
without the body. -/
def methods : Route → List String
  | health => ["GET", "HEAD"]
  | metrics => ["GET", "HEAD"]
  | templates => ["GET", "HEAD", "POST"]
  | preview => ["POST"]
  | template _ => ["GET", "HEAD", "PUT", "DELETE"]
  | history _ => ["GET", "HEAD"]

end Route

end Galley
