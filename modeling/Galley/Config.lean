import Galley.Config.Path
import Galley.Config.Toml
import Galley.Json.ShapeReader
import Galley.Time.Duration
import Galley.Word

/-!
# Configuration

How the program is set up. Settings come from a file, in JSON or TOML, and from environment
variables: `PDFGEN__SERVER__PORT` is the setting `server.port`, and it wins over the file. A setting
that is not given has a default; one that is given but does not fit refuses the whole configuration,
and so does `null`, except for the database, which may be left out.

A section is a table, or a list of its settings in order.
-/

namespace Galley

/-- How lines of the log are written. -/
inductive LogFormat where
  | json
  | pretty
  | compact
  deriving DecidableEq, Repr

namespace LogFormat

/-- All formats, in order. -/
def all : List LogFormat := [json, pretty, compact]

/-- The name of a format. -/
def name : LogFormat → String
  | json => "json"
  | pretty => "pretty"
  | compact => "compact"

/-- The format of a name, in small or capital letters. -/
def ofName? (s : String) : Option LogFormat :=
  all.find? fun format => format.name == Text.lower s

/-- The shape of a format. -/
abbrev shape : Json.Shape := .choice (all.map name)

/-- The format that data of its shape stands for. -/
def ofData (i : shape.Value) : LogFormat := all.get i

end LogFormat

/-- Where the server listens and who may read its responses. -/
structure ServerConfig where
  host : String
  port : Nat
  allowedOrigins : List String

namespace ServerConfig

/-- The address to listen on. -/
def bindAddress (c : ServerConfig) : String := c.host ++ ":" ++ toString c.port

end ServerConfig

/-- The database and the connections to it. -/
structure DatabaseConfig where
  url : String
  maxConnections : Nat
  minConnections : Nat
  acquireTimeout : Duration

/-- How the list of templates follows the log. -/
structure ProjectionConfig where
  name : String
  pollInterval : Duration
  batchSize : Nat
  shutdownGrace : Duration

/-- The renderer. -/
structure RenderConfig where
  binary : String
  timeout : Duration

/-- What is logged, and how. -/
structure LoggingConfig where
  level : String
  format : LogFormat
  moduleLevels : List (String × String)
  includeLocation : Bool
  includeTarget : Bool
  spanCloseEvents : Bool

/-- What is measured. -/
structure MetricsConfig where
  enabled : Bool
  durationBuckets : List Decimal.Extended

/-- The whole configuration. -/
structure Config where
  server : ServerConfig
  database : Option DatabaseConfig
  projection : ProjectionConfig
  render : RenderConfig
  logging : LoggingConfig
  metrics : MetricsConfig

namespace Config

-- ---------------------------------------------------------------------------
-- Sections
-- ---------------------------------------------------------------------------

/-- The settings of a section, by name or in order. -/
inductive Section where
  | named (members : List (String × Setting))
  | listed (items : List Setting)

namespace Section

/-- The section that a setting is. -/
def of? : Setting → Option Section
  | .object members => some (named members)
  | .array items => some (listed items)
  | _ => none

/-- The section without settings. -/
def empty : Section := named []

/-- A setting of the section. -/
def find? (s : Section) (place : Nat) (name : String) : Option Setting :=
  match s with
  | named members => members.lookup name
  | listed items => items[place]?

/-- A setting as it is needed, or its default. -/
def get {α : Type} (s : Section) (place : Nat) (name : String) (read : Setting → Option α)
    (default : α) : Option α :=
  match s.find? place name with
  | some setting => read setting
  | none => some default

/-- A section within the section. -/
def inner (s : Section) (place : Nat) (name : String) : Option Section := s.get place name of? empty

end Section

-- ---------------------------------------------------------------------------
-- Values
-- ---------------------------------------------------------------------------

/-- A setting as a duration. -/
def duration? (s : Setting) : Option Duration := Setting.text? s >>= Duration.read?

/-- A setting as a list. -/
def list? {α : Type} (read : Setting → Option α) : Setting → Option (List α)
  | .array items => items.mapM read
  | _ => none

/-- A setting as a table of texts. -/
def table? : Setting → Option (List (String × String))
  | .object members =>
    members.mapM fun (name, value) => (Setting.text? value).map fun text => (name, text)
  | _ => none

/-- A setting as a log format: its name, or a table whose only member has that name. -/
def format? : Setting → Option LogFormat
  | .string s => LogFormat.ofName? s
  | .object [(name, _)] => LogFormat.ofName? name
  | _ => none

/-- The bounds of the buckets of request durations, in seconds. -/
def standardBuckets : List Decimal.Extended :=
  [(5, -3), (1, -2), (25, -3), (5, -2), (1, -1), (25, -2), (5, -1), (1, 0), (25, -1), (5, 0),
    (10, 0)].map fun (digits, exponent) => .ofScaled false digits exponent

-- ---------------------------------------------------------------------------
-- Reading
-- ---------------------------------------------------------------------------

/-- Reads the section of the server. -/
def readServer (s : Section) : Option ServerConfig := do
  let host ← s.get 0 "host" Setting.text? "0.0.0.0"
  let port ← s.get 1 "port" (Setting.nat? Word.values16) 8080
  let origins ← s.get 2 "allowed_origins" (list? Setting.text?) []
  return ⟨host, port, origins⟩

/-- Reads the section of the database. Its address must be given. -/
def readDatabase (s : Section) : Option DatabaseConfig := do
  let url ← Setting.text? (← s.find? 0 "url")
  let maxConnections ← s.get 1 "max_connections" (Setting.nat? Word.values32) 20
  let minConnections ← s.get 2 "min_connections" (Setting.nat? Word.values32) 2
  let acquireTimeout ← s.get 3 "acquire_timeout" duration? (.ofSeconds 5)
  return ⟨url, maxConnections, minConnections, acquireTimeout⟩

/-- Reads the section of the projection. -/
def readProjection (s : Section) : Option ProjectionConfig := do
  let name ← s.get 0 "name" Setting.text? "template_list"
  let pollInterval ← s.get 1 "poll_interval" duration? (.ofMillis 250)
  let batchSize ← s.get 2 "batch_size" (Setting.nat? Word.values64) 500
  let shutdownGrace ← s.get 3 "shutdown_grace" duration? (.ofSeconds 5)
  return ⟨name, pollInterval, batchSize, shutdownGrace⟩

/-- Reads the section of the renderer. -/
def readRender (s : Section) : Option RenderConfig := do
  let binary ← s.get 0 "typst_binary" Setting.text? "typst"
  let timeout ← s.get 1 "timeout" duration? (.ofSeconds 30)
  return ⟨binary, timeout⟩

/-- Reads the section of the log. -/
def readLogging (level : String) (s : Section) : Option LoggingConfig := do
  let level ← s.get 0 "level" Setting.text? level
  let format ← s.get 1 "format" format? .json
  let moduleLevels ← s.get 2 "module_levels" table? []
  let includeLocation ← s.get 3 "include_location" Setting.flag? true
  let includeTarget ← s.get 4 "include_target" Setting.flag? true
  let spanCloseEvents ← s.get 5 "span_close_events" Setting.flag? false
  return ⟨level, format, moduleLevels, includeLocation, includeTarget, spanCloseEvents⟩

/-- Reads the section of the measures. -/
def readMetrics (s : Section) : Option MetricsConfig := do
  let enabled ← s.get 0 "enabled" Setting.flag? true
  let buckets ← s.get 1 "duration_buckets" (list? Setting.real?) standardBuckets
  return ⟨enabled, buckets⟩

/-- Reads a configuration; `level` is what the log level is unless it is set. -/
def ofSettings (level : String) (root : Setting) : Option Config := do
  let s ← Section.of? root
  let server ← readServer (← s.inner 0 "server")
  let database ← match s.find? 1 "database" with
    | none => some none
    | some .null => some none
    | some setting => (Section.of? setting >>= readDatabase).map some
  let projection ← readProjection (← s.inner 2 "projection")
  let render ← readRender (← s.inner 3 "render")
  let logging ← readLogging level (← s.inner 4 "logging")
  let metrics ← readMetrics (← s.inner 5 "metrics")
  return ⟨server, database, projection, render, logging, metrics⟩

-- ---------------------------------------------------------------------------
-- Sources
-- ---------------------------------------------------------------------------

/-- How a file is written. -/
inductive FileFormat where
  | json
  | toml
  deriving DecidableEq, Repr

/-- The text of a file behind the mark that it is in UTF-8, if it has one. -/
def behindMark (text : String) : String :=
  match text.toList with
  | '\uFEFF' :: cs => String.ofList cs
  | _ => text

/-- The settings at the top of a file. -/
def readFile (format : FileFormat) (text : String) : Option (List (String × Setting)) :=
  let root := match format with
    | .json => (Json.parse (behindMark text)).toOption.map Setting.ofJson
    | .toml => Toml.parse? (behindMark text)
  match root with
  | some (.object members) => some members
  | _ => none

/-- The start of the names of variables that are settings, in small letters. -/
def variableMark : List Char := "pdfgen__".toList

/-- A name with a dot for every two underscores. -/
def dotted : List Char → List Char
  | '_' :: '_' :: cs => '.' :: dotted cs
  | c :: cs => c :: dotted cs
  | [] => []

/-- The setting of a variable. -/
def settingOfVariable (name value : String) : Option (String × Setting) :=
  let cs := (Text.lower name).toList
  if variableMark <+: cs then
    some (String.ofList (dotted (cs.drop variableMark.length)), .string value)
  else none

/-- The log level, unless it is set. -/
def standardLevel (env : List (String × String)) : String := (env.lookup "RUST_LOG").getD "info"

/-- Loads a configuration from a file, if there is one, and the environment. -/
def load (file : Option (FileFormat × String)) (env : List (String × String)) : Option Config := do
  let members ← match file with
    | some (format, text) => readFile format text
    | none => some []
  let overrides := env.filterMap fun (name, value) => settingOfVariable name value
  ofSettings (standardLevel env) (putAll (putAll (.object []) members) overrides)

end Config

end Galley
