import Galley.Api.Body
import Galley.Client.Command
import Galley.Terminal.Paint
import Galley.Terminal.Table

/-!
# Reports

How the client shows what came of a command: as JSON, or for people to read, with colours if they
are on.
-/

namespace Galley.Client

/-- How results look. -/
structure Look where
  format : OutputFormat
  colours : Bool
  deriving DecidableEq, Repr

namespace Look

/-- Paints a text, if colours are on. -/
def paint (l : Look) (paint : Terminal.Paint) (text : String) : String :=
  Terminal.painted l.colours paint text

/-- A message with its status as JSON, on a line. -/
def messageJson (status message : String) : String :=
  (Json.object [("message", .string message), ("status", .string status)]).toCompact ++ "\n"

/-- A line that says that a command was carried out. -/
def success (l : Look) (message : String) : String :=
  match l.format with
  | .json => messageJson "success" message
  | _ => l.paint [.bold, .green] "[OK]" ++ " " ++ message ++ "\n"

/-- A line that says why a command failed. -/
def failure (l : Look) (message : String) : String :=
  match l.format with
  | .json => messageJson "error" message
  | _ => l.paint [.bold, .red] "[ERROR]" ++ " " ++ message ++ "\n"

/-- A JSON value, indented, on lines of its own. -/
def json (value : Json) : String := value.toIndented ++ "\n"

/-- A table on lines of its own, or a line that says that it would be empty. -/
def table (l : Look) (names : List String) (rows : List (List String)) : String :=
  if rows.isEmpty then l.paint [.dimmed] "No results found." ++ "\n"
  else Terminal.table names rows ++ "\n"

/-- A line with a value under its name. -/
def entry (l : Look) (name value : String) : String :=
  "  " ++ l.paint [.cyan] name ++ ": " ++ value ++ "\n"

/-- Whether a template is archived, in a word. -/
def archivedWord (l : Look) (archived : Bool) : String :=
  if archived then l.paint [.dimmed] "archived" else l.paint [.green] "active"

-- ---------------------------------------------------------------------------
-- Templates
-- ---------------------------------------------------------------------------

/-- A template. -/
def template (l : Look) (t : Template) : String :=
  match l.format with
  | .json => json t.toJson
  | _ =>
    let grid := t.content.grid
    "\n" ++ l.paint [.bold, .underlined] t.name ++ "\n\n"
      ++ l.entry "ID" t.id.toText
      ++ l.entry "Description" t.description
      ++ l.entry "Status" (l.archivedWord t.archived)
      ++ l.entry "Version" (toString t.version)
      ++ l.entry "Created" (Time.printWithOffset t.createdAt)
      ++ l.entry "Updated" (Time.printWithOffset t.updatedAt)
      ++ l.entry "Grid"
        (toString grid.columns.toNat ++ " columns, gap " ++ toString grid.gap.toNat)
      ++ l.entry "Components" (toString t.content.components.length)
      ++ l.entry "Variables" (toString t.content.parameters.length)

/-- The list of templates. -/
def list (l : Look) (rows : List Summary) : String :=
  match l.format with
  | .json => json (ListResponse.shape.encode (ListResponse.toData rows))
  | .table =>
    l.table ["ID", "Name", "Description", "Status", "Updated"]
      (rows.map fun s =>
        [s.id.toText, s.name, s.description, l.archivedWord s.archived,
          Time.printPlain s.updatedAt])
  | .text =>
    String.join (rows.map fun s =>
      s.id.toText ++ "  " ++ l.paint [.bold] s.name ++ "  " ++ l.archivedWord s.archived ++ "\n")

/-- A template's history. -/
def history (l : Look) (h : HistoryResponse) : String :=
  match l.format with
  | .json => json (HistoryResponse.shape.encode h.toData)
  | _ =>
    l.table ["Version", "Event", "Recorded"]
      (h.entries.map fun e => [toString e.version, e.kind, Time.printPlainMillis e.recordedAt])

/-- A text in a JSON object, or a default. -/
def textIn (value : Json) (name default : String) : String :=
  match value.member? name with
  | some (.string s) => s
  | _ => default

/-- How the server is. -/
def health (l : Look) (value : Json) : String :=
  match l.format with
  | .json => json value
  | _ =>
    l.success ("Server is " ++ textIn value "status" "unknown" ++ " (version "
      ++ textIn value "version" "?" ++ ")")

end Look

end Galley.Client
