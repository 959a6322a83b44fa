import Galley.Identity.Uuid

/-!
# Commands

What the client can be told to do, and how it should go about it.
-/

namespace Galley.Client

/-- How results are shown. -/
inductive OutputFormat where
  | text
  | json
  | table
  deriving DecidableEq, Repr

namespace OutputFormat

/-- All formats, in order. -/
def all : List OutputFormat := [text, json, table]

/-- The name of a format. -/
def name : OutputFormat → String
  | text => "text"
  | json => "json"
  | table => "table"

/-- The format of a name. -/
def ofName? (s : String) : Option OutputFormat := all.find? fun format => format.name == s

end OutputFormat

/-- A command. The files that hold content and sources are given by their paths. -/
inductive Command where
  | list (activeOnly : Bool)
  | get (id : Uuid)
  | create (name description : String) (content : Option String)
  | update (id : Uuid) (name description content : Option String) (expected : Option Nat)
  | archive (id : Uuid)
  | history (id : Uuid)
  | preview (source : String) (values : List (String × String)) (out : String)
  | health
  deriving DecidableEq, Repr

/-- A command, the server it is for, and how to show what comes of it. -/
structure Invocation where
  server : String
  format : OutputFormat
  timeout : Nat
  plain : Bool
  command : Command
  deriving DecidableEq, Repr

end Galley.Client
