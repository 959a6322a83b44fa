import Galley.Api.Handler
import Galley.Client.CommandLine
import Galley.Terminal.Control
import Galley.Terminal.Styled

/-!
# Help

What the client says when it is asked for help or for its version, and when its command line is
misused. Help lists verbs and switches in two columns; headings and what is typed as it stands are
bold where effects are shown. Where they are not, control sequences that come in with a value of the
environment have no effect either.
-/

namespace Galley.Client

/-- The name of the client. -/
def clientName : String := "pdfgen"

namespace Help

open Terminal (Span Styled)

/-- Whether help is shown with effects: the environment asks for them, and does not forbid them. -/
def showsEffects (env : List (String × String)) : Bool :=
  let isGiven (name : String) : Bool := (env.lookup name).any fun value => !value.isEmpty
  isGiven "CLICOLOR_FORCE" && !isGiven "NO_COLOR"

-- ---------------------------------------------------------------------------
-- Columns
-- ---------------------------------------------------------------------------

/-- A heading. -/
def heading (text : String) : Span := ⟨[.bold, .underlined], text ++ ":"⟩

/-- Something that is typed as it stands. -/
def literal (text : String) : Span := ⟨[.bold], text⟩

/-- A row of two columns. -/
structure Row where
  left : Styled
  right : String
  deriving DecidableEq, Repr

/-- The width of lines. -/
def lineWidth : Nat := 100

/-- The width beyond which a left column takes up lines of its own. -/
def leftWidth : Nat := 40

/-- So many blanks. -/
def blanks (n : Nat) : String := String.ofList (List.replicate n ' ')

/-- A text whose lines begin at a column. -/
def indented (column : Nat) (text : String) : Span :=
  .plain (String.intercalate ("\n" ++ blanks column) (text.splitOn "\n"))

/-- Lines of two columns. If the left one is wide and something on the right does not fit beside it,
the right ones stand on lines of their own. -/
def columns (rows : List Row) : List Styled :=
  let widest := (rows.map fun row => row.left.width).foldl max 0
  let start := widest + 4
  let isTooWide (row : Row) : Bool := lineWidth < start + Terminal.width row.right.toList
  let apart := leftWidth < start && rows.any isTooWide
  rows.flatMap fun row =>
    if apart then [.plain "  " :: row.left, [.plain (blanks 10), indented 10 row.right]]
    else
      [.plain "  " :: row.left
        ++ [.plain (blanks (widest + 2 - row.left.width)), indented start row.right]]

-- ---------------------------------------------------------------------------
-- Switches
-- ---------------------------------------------------------------------------

/-- A letter and a name, and what stands behind them. -/
def switchSpans (letter : Option Char) (name label : String) : Styled :=
  (match letter with
    | some letter => [literal ("-" ++ letter.toString), .plain ", "]
    | none => [.plain "    "])
    ++ [literal ("--" ++ name), .plain label]

/-- The label of a switch's value, where it takes one. -/
def labelText (s : Switch) : String := if s.takes = .nothing then "" else " <" ++ s.label ++ ">"

/-- A value as the help shows it: in quotes if it is empty. -/
def shownStandard (text : String) : String := if text.isEmpty then "\"\"" else text

/-- What the help says about a switch. -/
def aboutColumn (env : List (String × String)) (s : Switch) : String :=
  let notes :=
    (if s.name = "server" then
      ["[env: PDFGEN_SERVER=" ++ (env.lookup "PDFGEN_SERVER").getD "" ++ "]"] else [])
    ++ (s.standard.map fun text => "[default: " ++ shownStandard text ++ "]").toList
    ++ (if s.takes = .format then
      ["[possible values: "
        ++ String.intercalate ", " (OutputFormat.all.map OutputFormat.name) ++ "]"]
      else [])
  String.intercalate " " ((if s.about.isEmpty then [] else [s.about]) ++ notes)

/-- By what switches in one place of their lists are ordered. -/
def orderKey (s : Switch) : String :=
  match s.letter with
  | some letter => String.ofList [letter, '0']
  | none => s.name

/-- The switches that can stand in a place, the verb's own and the general ones side by side. -/
def sortedSwitches (verb : Option Verb) : List Switch :=
  let own := (verb.map Verb.switches).getD []
  let placed := own.zipIdx ++ generalSwitches.zipIdx
  (placed.mergeSort fun (a, i) (b, j) =>
    i < j || (i == j && (compare (orderKey a) (orderKey b)).isLE)).map Prod.fst

/-- The rows of the switches that can stand in a place. -/
def switchRows (env : List (String × String)) (verb : Option Verb) : List Row :=
  (sortedSwitches verb).map
      (fun s => ⟨switchSpans s.letter s.name (labelText s), aboutColumn env s⟩)
    ++ [⟨switchSpans (some 'h') "help" "", "Print help"⟩,
      ⟨switchSpans (some 'V') "version" "", "Print version"⟩]

-- ---------------------------------------------------------------------------
-- Pages
-- ---------------------------------------------------------------------------

/-- What the help says about help. -/
def aboutHelp : String := "Print this message or the help of the given subcommand(s)"

/-- What the help says about a topic. -/
def about : Topic → String
  | .client => "Manage pdfgen document templates"
  | .verb verb => verb.about
  | .help => aboutHelp

/-- What is typed to come to a topic. -/
def callName : Topic → String
  | .client => clientName
  | .verb verb => clientName ++ " " ++ verb.name
  | .help => clientName ++ " help"

/-- The required switches of a verb, as they are typed. -/
def requiredSpans (verb : Verb) : Styled :=
  (verb.switches.filter Switch.isRequired).flatMap fun s =>
    [.plain " ", literal ("--" ++ s.name), .plain (labelText s)]

/-- The line that shows how the client is called. -/
def usageLine (topic : Topic) : Styled :=
  [heading "Usage", .plain " ", literal (callName topic)] ++
    match topic with
    | .client => [.plain " [OPTIONS] <COMMAND>"]
    | .verb verb =>
      .plain " [OPTIONS]" :: requiredSpans verb
        ++ [.plain (if verb.takesId then " <ID>" else "")]
    | .help => [.plain " [COMMAND]..."]

/-- A list under its heading. -/
def part (title : String) (rows : List Row) : List Styled := [heading title] :: columns rows

/-- The rows of the verbs. -/
def verbRows : List Row :=
  (Verb.all.map fun verb => ⟨[literal verb.name], verb.about⟩)
    ++ [⟨[literal "help"], aboutHelp⟩]

/-- The lists of a page. -/
def parts (env : List (String × String)) : Topic → List (List Styled)
  | .client => [part "Commands" verbRows, part "Options" (switchRows env none)]
  | .verb verb =>
    (if verb.takesId then [part "Arguments" [⟨[.plain "<ID>"], ""⟩]] else [])
      ++ [part "Options" (switchRows env (some verb))]
  | .help => [part "Arguments" [⟨[.plain "[COMMAND]..."], "Print help for the subcommand(s)"⟩]]

/-- A page in lines. -/
def page (env : List (String × String)) (topic : Topic) : List Styled :=
  [[.plain (about topic)], [], usageLine topic]
    ++ (parts env topic).flatMap fun lines => [] :: lines

/-- The help on a topic. -/
def text (env : List (String × String)) (topic : Topic) : String :=
  let effects := showsEffects env
  let text := String.join ((page env topic).map fun line => line.render effects ++ "\n")
  if effects then text else Terminal.withoutSequences text

/-- The version of the client, under the name of a verb or its own. -/
def version (verb : Option Verb) : String :=
  let name := match verb with
    | none => clientName
    | some verb => clientName ++ "-" ++ verb.name
  name ++ " " ++ programVersion ++ "\n"

/-- What is said about a misused command line. -/
def misuse : String :=
  "error: the command line is not understood\n\n" ++ (usageLine .client).text
    ++ "\n\nFor more information, try \x27--help\x27.\n"

end Help

end Galley.Client
