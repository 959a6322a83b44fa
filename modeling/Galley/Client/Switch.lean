import Galley.Client.Command
import Galley.Text.Blank
import Galley.Text.Digits
import Galley.Word

/-!
# Switches and verbs

What can stand on the client's command line: a *verb* for each command, and *switches*, which have a
name behind two hyphens, perhaps a letter behind one, and perhaps a value. Some switches belong to
all commands, the others to one verb. A verb's own switch goes before a general one of the same
letter.
-/

namespace Galley.Client

-- ---------------------------------------------------------------------------
-- Values
-- ---------------------------------------------------------------------------

/-- What a switch takes for its value. -/
inductive Takes where
  | nothing
  | text
  | path
  | count
  | format
  | binding
  deriving DecidableEq, Repr

/-- Reads a number of 64 bits. -/
def readCount? (s : String) : Option Nat :=
  (Text.readNatural? s.toList).filter fun n => n < Word.values64

/-- Reads a variable: a name that is not blank, an equals sign, and any value. -/
def readVariable? (s : String) : Option (String × String) :=
  let cs := s.toList
  let name := cs.takeWhile (· != '=')
  match cs.drop name.length with
  | '=' :: value =>
    let name := Text.trim name
    if name.isEmpty then none else some (String.ofList name, String.ofList value)
  | _ => none

/-- Whether a text can be the value of a switch. -/
def Takes.accepts : Takes → String → Bool
  | nothing, _ => false
  | text, _ => true
  | path, s => !s.isEmpty
  | count, s => (readCount? s).isSome
  | format, s => (OutputFormat.ofName? s).isSome
  | binding, s => (readVariable? s).isSome

-- ---------------------------------------------------------------------------
-- Switches
-- ---------------------------------------------------------------------------

/-- A switch. `label` names its value in the help, and `standard` is what the help says it is when
it is not given. -/
structure Switch where
  name : String
  letter : Option Char := none
  takes : Takes := .text
  label : String := ""
  about : String := ""
  standard : Option String := none
  isRequired : Bool := false
  isRepeatable : Bool := false
  deriving DecidableEq, Repr

/-- Where the server is, unless the command line or the environment says. -/
def standardServer : String := "http://localhost:8080"

/-- The switches that belong to all commands. -/
def generalSwitches : List Switch :=
  [{ name := "server", letter := some 's', label := "SERVER", about := "Server base URL",
     standard := some standardServer },
   { name := "format", letter := some 'f', takes := .format, label := "FORMAT",
     about := "Output format", standard := some "table" },
   { name := "timeout", takes := .count, label := "TIMEOUT", about := "Request timeout in seconds",
     standard := some "30" },
   { name := "no-color", takes := .nothing, about := "Disable colored output" }]

-- ---------------------------------------------------------------------------
-- Verbs
-- ---------------------------------------------------------------------------

/-- A verb: the name of a command, whether it is about the template of an identifier, and its own
switches. -/
inductive Verb where
  | list
  | get
  | create
  | update
  | archive
  | history
  | preview
  | health
  deriving DecidableEq, Repr

namespace Verb

/-- All verbs, in order. -/
def all : List Verb := [list, get, create, update, archive, history, preview, health]

/-- The name of a verb. -/
def name : Verb → String
  | list => "list"
  | get => "get"
  | create => "create"
  | update => "update"
  | archive => "archive"
  | history => "history"
  | preview => "preview"
  | health => "health"

/-- What the help says about a verb. -/
def about : Verb → String
  | list => "List templates (newest first)"
  | get => "Show one template"
  | create => "Create a template"
  | update => "Update a template; omitted fields keep their current value"
  | archive => "Archive a template"
  | history => "Show the event history of a template"
  | preview => "Render typst source to PDF"
  | health => "Check server health"

/-- The verb of a name. -/
def ofName? (s : String) : Option Verb := all.find? fun verb => verb.name == s

/-- Whether the command is about the template of an identifier. -/
def takesId : Verb → Bool
  | get => true
  | update => true
  | archive => true
  | history => true
  | _ => false

/-- The switch for a template's name. -/
def nameSwitch : Switch := { name := "name", letter := some 'n', label := "NAME" }

/-- The switch for a template's description. -/
def descriptionSwitch : Switch :=
  { name := "description", letter := some 'd', label := "DESCRIPTION" }

/-- The switch for the file with a template's content. -/
def contentSwitch : Switch :=
  { name := "content", letter := some 'c', takes := .path, label := "CONTENT" }

/-- The verb's own switches. -/
def switches : Verb → List Switch
  | list => [{ name := "active", takes := .nothing, about := "Hide archived templates" }]
  | create =>
    [{ nameSwitch with isRequired := true },
     { descriptionSwitch with standard := some "" },
     { contentSwitch with about := "JSON file with the template content" }]
  | update =>
    [nameSwitch,
     descriptionSwitch,
     { contentSwitch with about := "JSON file with the new template content" },
     { name := "expected-version", takes := .count, label := "EXPECTED_VERSION",
       about := "Fail with a conflict unless the template is at this version" }]
  | preview =>
    [{ name := "source", letter := some 's', takes := .path, label := "SOURCE",
       about := "Typst source file", isRequired := true },
     { name := "var", takes := .binding, label := "VARS",
       about := "Template variable, repeatable", isRepeatable := true },
     { name := "out", letter := some 'o', takes := .path, label := "OUT",
       about := "Output PDF path", standard := some "preview.pdf" }]
  | _ => []

end Verb

/-- The switches that can stand before a verb, or behind one. -/
def switchesAt : Option Verb → List Switch
  | none => generalSwitches
  | some verb => verb.switches ++ generalSwitches

end Galley.Client
