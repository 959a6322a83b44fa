import Galley.Client.Switch

/-!
# Command lines

A command line is read word by word. A word is a switch, a value that the switch before it waits
for, the verb, or the identifier that the verb is about; behind `--` no word is a switch. Values are
judged where they stand, so a bad value before a call for help is a misuse and one behind it is not
looked at. A switch that is not repeatable is given once before the verb and once behind it, and the
one behind the verb wins.
-/

namespace Galley.Client

/-- What help can be about: the whole client, a verb, or help itself. -/
inductive Topic where
  | client
  | verb (about : Verb)
  | help
  deriving DecidableEq, Repr

/-- The topic of a verb, or of the whole client if there is none. -/
def Topic.ofVerb : Option Verb → Topic
  | none => client
  | some v => .verb v

/-- Why a command line gives no invocation: it asks for help, or for the version of a verb or of the
whole client, or it is misused. -/
inductive Stop where
  | help (topic : Topic)
  | version (verb : Option Verb)
  | misuse
  deriving DecidableEq, Repr

-- ---------------------------------------------------------------------------
-- Words
-- ---------------------------------------------------------------------------

/-- What a word looks like. -/
inductive WordForm where
  | separator
  | named (name : String) (value : Option String)
  | lettered (letter : Char) (value : Option String)
  | plain
  deriving DecidableEq, Repr

/-- What a word looks like. -/
def WordForm.ofText (s : String) : WordForm :=
  match s.toList with
  | ['-', '-'] => separator
  | '-' :: '-' :: cs =>
    let name := cs.takeWhile (· != '=')
    match cs.drop name.length with
    | _ :: value => named (String.ofList name) (some (String.ofList value))
    | [] => named (String.ofList name) none
  | '-' :: letter :: cs =>
    match cs with
    | [] => lettered letter none
    | '=' :: value => lettered letter (some (String.ofList value))
    | value => lettered letter (some (String.ofList value))
  | _ => plain

-- ---------------------------------------------------------------------------
-- Reading
-- ---------------------------------------------------------------------------

/-- A switch that was given, and whether behind the verb. -/
structure Given where
  name : String
  behindVerb : Bool
  value : String
  deriving DecidableEq, Repr

/-- What has been read of a command line: the verb, if it was met, the topic of the help that is
called for by a word, the switch that waits for its value, whether `--` was met, and what was given,
in order. -/
structure Progress where
  verb : Option Verb
  helping : Option Topic
  waiting : Option Switch
  separated : Bool
  given : List Given
  id : Option Uuid
  deriving DecidableEq, Repr

namespace Progress

/-- Nothing has been read. -/
def start : Progress := ⟨none, none, none, false, [], none⟩

/-- Whether a switch was given on this side of the verb. -/
def hasHere (p : Progress) (name : String) : Bool :=
  p.given.any fun g => g.name == name && g.behindVerb == p.verb.isSome

/-- Takes a switch with its value. -/
def give (p : Progress) (s : Switch) (value : String) : Except Stop Progress :=
  if p.hasHere s.name && !s.isRepeatable then .error .misuse
  else
    .ok { p with waiting := none, given := p.given ++ [⟨s.name, p.verb.isSome, value⟩] }

/-- Takes a switch with the value that stands in the same word, if any. -/
def takeSwitch (p : Progress) (s : Switch) (value : Option String) : Except Stop Progress :=
  match s.takes, value with
  | .nothing, none => p.give s ""
  | .nothing, some _ => .error .misuse
  | takes, some value => if takes.accepts value then p.give s value else .error .misuse
  | _, none => .ok { p with waiting := some s }

/-- Takes a switch by its name. -/
def takeNamed (p : Progress) (name : String) (value : Option String) : Except Stop Progress :=
  if name = "help" ∧ value = none then .error (.help (.ofVerb p.verb))
  else if name = "version" ∧ value = none then .error (.version p.verb)
  else match (switchesAt p.verb).find? fun s => s.name == name with
    | some s => p.takeSwitch s value
    | none => .error .misuse

/-- Takes a switch by its letter. -/
def takeLettered (p : Progress) (letter : Char) (value : Option String) : Except Stop Progress :=
  if letter = 'h' then .error (.help (.ofVerb p.verb))
  else if letter = 'V' then .error (.version p.verb)
  else match (switchesAt p.verb).find? fun s => s.letter == some letter with
    | some s => p.takeSwitch s value
    | none => .error .misuse

/-- Takes a word that is neither a switch nor a value: a verb, or what the verb is about. -/
def takePlain (p : Progress) (word : String) : Except Stop Progress :=
  match p.verb with
  | none =>
    if p.separated then .error .misuse
    else if word = "help" then .ok { p with helping := some .client }
    else match Verb.ofName? word with
      | some verb => .ok { p with verb := some verb }
      | none => .error .misuse
  | some verb =>
    if verb.takesId && p.id.isNone then
      match Uuid.read word with
      | .ok id => .ok { p with id := some id }
      | .error _ => .error .misuse
    else .error .misuse

/-- Takes the next word. -/
def step (p : Progress) (word : String) : Except Stop Progress :=
  if p.separated then p.takePlain word
  else match p.waiting, WordForm.ofText word with
    | none, .separator => .ok { p with separated := true }
    | none, .named name value => p.takeNamed name value
    | none, .lettered letter value => p.takeLettered letter value
    | none, .plain => p.takePlain word
    | some s, .plain => if s.takes.accepts word then p.give s word else .error .misuse
    | some _, _ => .error .misuse

/-- Takes a word that narrows the topic of help. -/
def stepHelping (p : Progress) (topic : Topic) (word : String) : Except Stop Progress :=
  match topic, word, Verb.ofName? word with
  | .client, "help", _ => .ok { p with helping := some .help }
  | .client, _, some verb => .ok { p with helping := some (.verb verb) }
  | _, _, _ => .error .misuse

/-- Reads words. -/
def steps (p : Progress) (words : List String) : Except Stop Progress :=
  words.foldlM
    (fun p word =>
      match p.helping with
      | some topic => p.stepHelping topic word
      | none => p.step word)
    p

-- ---------------------------------------------------------------------------
-- The invocation
-- ---------------------------------------------------------------------------

/-- The values of a switch, in order. -/
def values (p : Progress) (behindVerb : Bool) (name : String) : List String :=
  (p.given.filter fun g => g.name == name && g.behindVerb == behindVerb).map Given.value

/-- The value of one of the verb's own switches. -/
def value? (p : Progress) (name : String) : Option String := (p.values true name).head?

/-- The value of a general switch. -/
def general? (p : Progress) (name : String) : Option String :=
  (p.values true name).head?.or (p.values false name).head?

/-- Whether everything required was given, and nothing waits for its value. -/
def isComplete (p : Progress) (verb : Verb) : Bool :=
  p.waiting.isNone && (p.id.isSome || !verb.takesId)
    && verb.switches.all fun s => !s.isRequired || (p.value? s.name).isSome

/-- The command. -/
def command (p : Progress) (verb : Verb) : Command :=
  let id := p.id.getD default
  match verb with
  | .list => .list (p.value? "active").isSome
  | .get => .get id
  | .create =>
    .create ((p.value? "name").getD "") ((p.value? "description").getD "") (p.value? "content")
  | .update =>
    .update id (p.value? "name") (p.value? "description") (p.value? "content")
      (p.value? "expected-version" >>= readCount?)
  | .archive => .archive id
  | .history => .history id
  | .preview =>
    .preview ((p.value? "source").getD "") ((p.values true "var").filterMap readVariable?)
      ((p.value? "out").getD "preview.pdf")
  | .health => .health

/-- The invocation that a command line gives. -/
def finish (env : List (String × String)) (p : Progress) : Except Stop Invocation :=
  match p.helping, p.verb with
  | some topic, _ => .error (.help topic)
  | none, none => .error .misuse
  | none, some verb =>
    if p.isComplete verb then
      .ok {
        server := ((p.general? "server").or (env.lookup "PDFGEN_SERVER")).getD standardServer
        format := (p.general? "format" >>= OutputFormat.ofName?).getD .table
        timeout := (p.general? "timeout" >>= readCount?).getD 30
        plain := (p.general? "no-color").isSome
        command := p.command verb }
    else .error .misuse

end Progress

/-- Reads a command line in an environment. -/
def readCommandLine (env : List (String × String)) (words : List String) :
    Except Stop Invocation :=
  Progress.start.steps words >>= Progress.finish env

end Galley.Client
