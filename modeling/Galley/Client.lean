import Galley.Client.Call
import Galley.Client.Help
import Galley.Client.Report

/-!
# The client

A client for people on a terminal. Each command is a dialogue with the server and with files that
gives what is to be shown, or ends in a complaint.

An update reads the template first and fills in what it was not given. It then asks for a change on
top of the version that it read, or of the one that it was told to expect. If somebody else gets in
between, the server refuses, unless the version that was told is the one that they have made.
-/

namespace Galley.Client

-- ---------------------------------------------------------------------------
-- Commands
-- ---------------------------------------------------------------------------

/-- The path of all templates. -/
def templatesPath : String := "/api/templates"

/-- The path of a template. -/
def templatePath (id : Uuid) : String := templatesPath ++ "/" ++ id.toText

/-- Reads content from a file. -/
def readContent (path : String) : Session Content := do
  match Content.parse (← Session.load path) with
  | .ok content => return content
  | .error fault => throw (.notContent path fault)

/-- Reads content from a file, or takes a default if there is none. -/
def contentFrom (path : Option String) (default : Content) : Session Content :=
  match path with
  | some path => readContent path
  | none => return default

/-- Asks for a template. -/
def askTemplate (base : String) (c : Call) : Session Template := do
  return TemplateResponse.ofData (← c.ask base TemplateResponse.shape)

/-- Carries out an update: what is not given stays as the server has it. -/
def performUpdate (base : String) (id : Uuid) (name description content : Option String)
    (expected : Option Nat) : Session Template := do
  let current ← askTemplate base (.get (templatePath id))
  let content ← contentFrom content current.content
  let request : UpdateRequest := {
    name := name.getD current.name
    description := description.getD current.description
    content := content
    expected := some (expected.getD current.version) }
  askTemplate base (.put (templatePath id) (UpdateRequest.shape.encode request.toData))

/-- The table of values: of those of one name the last stays. -/
def valueTable (values : List (String × String)) : Placeholder.Variables :=
  values.foldl (fun table (name, value) => Json.insertMember name value table) []

/-- Carries out a command; the result is what is to be shown. -/
def perform (base : String) (l : Look) : Command → Session String
  | .list activeOnly => do
    let rows := ListResponse.ofData (← (Call.get templatesPath).ask base ListResponse.shape)
    return l.list (if activeOnly then rows.filter fun s => !s.archived else rows)
  | .get id => do
    return l.template (← askTemplate base (.get (templatePath id)))
  | .create name description content => do
    let content ← contentFrom content .empty
    let request : CreateRequest := ⟨name, description, content⟩
    let t ← askTemplate base (.post templatesPath (CreateRequest.shape.encode request.toData))
    return l.success ("Created template " ++ t.id.toText) ++ l.template t
  | .update id name description content expected => do
    let t ← performUpdate base id name description content expected
    return l.success
      ("Updated template " ++ id.toText ++ " to version " ++ toString t.version)
  | .archive id => do
    let _ ← (Call.delete (templatePath id)).perform base
    return l.success ("Archived template " ++ id.toText)
  | .history id => do
    let data ← (Call.get (templatePath id ++ "/history")).ask base HistoryResponse.shape
    return l.history (HistoryResponse.ofData data)
  | .preview source values out => do
    let request : PreviewRequest := ⟨← Session.load source, valueTable values⟩
    let body := PreviewRequest.shape.encode request.toData
    let r ← (Call.post (templatesPath ++ "/preview") body).perform base
    let bytes := r.payload.toBytes
    Session.save out bytes
    return l.success ("Wrote " ++ out ++ " (" ++ toString bytes.length ++ " bytes)")
  | .health => do
    return l.health (← (Call.get "/api/health").ask base .json)

-- ---------------------------------------------------------------------------
-- Running
-- ---------------------------------------------------------------------------

/-- How a run of the client ends: its exit code, and what it writes to its output and to its
errors. -/
structure Outcome where
  exit : Nat
  output : String
  errors : String
  deriving DecidableEq, Repr

/-- Whether the environment asks for colours. Output that does not go to a terminal has none
otherwise. -/
def wantsColours (env : List (String × String)) : Bool :=
  (env.lookup "CLICOLOR_FORCE").any (· != "0")

/-- The base of the server's addresses: without slashes at its end. -/
def baseAddress (server : String) : String :=
  String.ofList (server.toList.reverse.dropWhile (· == '/')).reverse

/-- Carries out an invocation. -/
def runInvocation (env : List (String × String)) (i : Invocation) : Dialogue Outcome := do
  let l : Look := ⟨i.format, wantsColours env && !i.plain⟩
  match ← (perform (baseAddress i.server) l i.command).run with
  | .ok output => return ⟨0, output, ""⟩
  | .error complaint => return ⟨1, "", l.failure complaint.message⟩

/-- Runs the client on a command line in an environment. -/
def run (env : List (String × String)) (words : List String) : Dialogue Outcome :=
  match readCommandLine env words with
  | .ok i => runInvocation env i
  | .error (.help topic) => return ⟨0, Help.text env topic, ""⟩
  | .error (.version verb) => return ⟨0, Help.version verb, ""⟩
  | .error .misuse => return ⟨2, "", Help.misuse⟩

end Galley.Client
