import Galley.Render.Renderer
import Galley.Text.Digits

/-!
# Scripts

A renderer can be a script for the shell: commands that write to the script's output and to its
errors, take the document from its input, wait, and end the script. `Script.run` says what a run on
a document comes to.

A script is a list of pipelines. The commands of a pipeline work one after another on what the one
before has written; a pipeline behind `&&` or `||` is passed over if the one before failed, or if it
did not. Single quotes keep everything, double quotes keep blanks and separators. Of the commands,
those are known that move, count and write bytes; calling any other fails with the status 127.
-/

namespace Galley.Script

/-- The arguments with which the renderer is called. -/
def arguments : List String := ["compile", "--format", "pdf", "-", "-"]

-- ---------------------------------------------------------------------------
-- Tokens
-- ---------------------------------------------------------------------------

/-- A part of a script. -/
inductive Token where
  | word (text : String)
  | next
  | pipe
  | both
  | either
  deriving DecidableEq, Repr

/-- What encloses the characters at a place. -/
inductive Quote where
  | none
  | single
  | double
  deriving DecidableEq, Repr

/-- Where the cutting of a script into tokens stands. The word on the way and the tokens come last
first. A mark is a backslash or a dollar sign that waits for the next character. -/
structure Cutting where
  quote : Quote
  mark : Option Char
  word : Option (List Char)
  tokens : List Token

namespace Cutting

/-- Nothing has been cut. -/
def start : Cutting := ⟨.none, .none, .none, []⟩

/-- Adds characters to the word. -/
def push (s : Cutting) (cs : List Char) : Cutting :=
  { s with mark := none, word := some (cs.reverse ++ s.word.getD []) }

/-- Ends the word, if there is one. -/
def close (s : Cutting) : Cutting :=
  match s.word with
  | some cs => { s with word := none, tokens := .word (String.ofList cs.reverse) :: s.tokens }
  | none => s

/-- Ends the word and adds a token. -/
def add (s : Cutting) (t : Token) : Cutting :=
  let s := s.close
  { s with tokens := t :: s.tokens }

/-- Takes a character behind a dollar sign. -/
def afterDollar (s : Cutting) (c : Char) : Cutting :=
  if c = '@' ∨ c = '*' then s.push (String.intercalate " " arguments).toList
  else if c = '#' then s.push (toString arguments.length).toList
  else if c.isDigit then
    s.push (if c = '0' then "typst".toList else (arguments.getD (Text.digitValue c - 1) "").toList)
  else s.push ['$', c]

/-- Takes a character behind a backslash. -/
def afterBackslash (s : Cutting) (c : Char) : Cutting :=
  if c = '\n' then { s with mark := none }
  else if s.quote = .double ∧ c ∉ ['"', '\\', '$', '\x60'] then s.push ['\\', c]
  else s.push [c]

/-- Takes a character outside quotes. -/
def plain (s : Cutting) (c : Char) : Cutting :=
  if c = '\x27' then { s with quote := .single, word := some (s.word.getD []) }
  else if c = '"' then { s with quote := .double, word := some (s.word.getD []) }
  else if c = '\\' ∨ c = '$' then { s with mark := some c }
  else if c = ' ' ∨ c = '\t' then s.close
  else if c = ';' ∨ c = '\n' then s.add .next
  else if c = '|' then
    match s.word, s.tokens with
    | none, .pipe :: tokens => { s with tokens := .either :: tokens }
    | _, _ => s.add .pipe
  else if c = '&' then
    match s.word, s.tokens with
    | some ('>' :: _), _ => s.push [c]
    | none, .both :: _ => s
    | _, _ => s.add .both
  else s.push [c]

/-- Takes a character. -/
def step (s : Cutting) (c : Char) : Cutting :=
  match s.mark, s.quote with
  | some '$', _ => s.afterDollar c
  | some _, _ => s.afterBackslash c
  | none, .none => s.plain c
  | none, .single => if c = '\x27' then { s with quote := .none } else s.push [c]
  | none, .double =>
    if c = '"' then { s with quote := .none }
    else if c = '\\' ∨ c = '$' then { s with mark := some c }
    else s.push [c]

end Cutting

/-- The tokens of a script. -/
def tokens (source : String) : List Token :=
  let s := source.toList.foldl Cutting.step .start
  (match s.mark with
    | some c => s.push [c]
    | none => s).close.tokens.reverse

-- ---------------------------------------------------------------------------
-- Pipelines
-- ---------------------------------------------------------------------------

/-- When a pipeline is run, by the status of the one before. -/
inductive Condition where
  | always
  | afterSuccess
  | afterFailure
  deriving DecidableEq, Repr

/-- Commands, each a list of words, and when they are run. -/
structure Pipeline where
  condition : Condition
  commands : List (List String)
  deriving DecidableEq, Repr

/-- The pipelines of a list of tokens. -/
def pipelines (ts : List Token) : List Pipeline :=
  ts.foldr
    (fun t rest =>
      let fresh (condition : Condition) : List Pipeline :=
        match rest with
        | p :: rest => ⟨.always, [[]]⟩ :: { p with condition := condition } :: rest
        | [] => [⟨.always, [[]]⟩]
      match t with
      | .next => fresh .always
      | .both => fresh .afterSuccess
      | .either => fresh .afterFailure
      | .pipe =>
        match rest with
        | p :: rest => { p with commands := [] :: p.commands } :: rest
        | [] => []
      | .word text =>
        match rest with
        | ⟨condition, words :: commands⟩ :: rest => ⟨condition, (text :: words) :: commands⟩ :: rest
        | rest => rest)
    [⟨.always, [[]]⟩]

-- ---------------------------------------------------------------------------
-- Written bytes
-- ---------------------------------------------------------------------------

/-- The byte of a letter behind a backslash. -/
def escapedByte (c : Char) : Option UInt8 :=
  [('n', 10), ('t', 9), ('r', 13), ('a', 7), ('b', 8), ('f', 12), ('v', 11), ('\\', 92)].lookup c

/-- Whether a character is an octal digit. -/
def isOctal (c : Char) : Bool := '0' ≤ c && c ≤ '7'

/-- The bytes of a text whose backslashes stand for bytes: a letter, or up to three octal digits. -/
def unescape : List Char → List UInt8
  | '\\' :: a :: cs =>
    if isOctal a then
      match cs with
      | b :: c :: cs =>
        if isOctal b && isOctal c then
          UInt8.ofNat (Text.digitValue a * 64 + Text.digitValue b * 8 + Text.digitValue c)
            :: unescape cs
        else if isOctal b then
          UInt8.ofNat (Text.digitValue a * 8 + Text.digitValue b) :: unescape (c :: cs)
        else UInt8.ofNat (Text.digitValue a) :: unescape (b :: c :: cs)
      | [b] =>
        if isOctal b then [UInt8.ofNat (Text.digitValue a * 8 + Text.digitValue b)]
        else UInt8.ofNat (Text.digitValue a) :: String.utf8EncodeChar b
      | [] => [UInt8.ofNat (Text.digitValue a)]
    else match escapedByte a with
      | some byte => byte :: unescape cs
      | none => 92 :: (String.utf8EncodeChar a ++ unescape cs)
  | c :: cs => String.utf8EncodeChar c ++ unescape cs
  | [] => []

/-- A format with its arguments filled in. -/
def fillFormat (args : List String) : List Char → List Char
  | '%' :: '%' :: cs => '%' :: fillFormat args cs
  | '%' :: 's' :: cs => (args.headD "").toList ++ fillFormat (args.drop 1) cs
  | '%' :: 'd' :: cs => (args.headD "0").toList ++ fillFormat (args.drop 1) cs
  | '\\' :: c :: cs => '\\' :: c :: fillFormat args cs
  | c :: cs => c :: fillFormat args cs
  | [] => []

-- ---------------------------------------------------------------------------
-- Commands
-- ---------------------------------------------------------------------------

/-- Where a command's bytes go. -/
inductive Target where
  | output
  | errors
  | nowhere
  deriving DecidableEq, Repr

/-- Takes the redirections out of a command's words: the words left, and where output and errors
go. -/
def redirect (out err : Target) : List String → List String × Target × Target
  | [] => ([], out, err)
  | ">" :: "/dev/null" :: rest => redirect .nowhere err rest
  | "2>" :: "/dev/null" :: rest => redirect out .nowhere rest
  | word :: rest =>
    if word = ">&2" ∨ word = "1>&2" then redirect err err rest
    else if word = "2>&1" then redirect out out rest
    else if word = ">/dev/null" ∨ word = "1>/dev/null" then redirect .nowhere err rest
    else if word = "2>/dev/null" then redirect out .nowhere rest
    else
      let (words, out, err) := redirect out err rest
      (word :: words, out, err)

/-- A script on its way: the input left, what was written, how long it took, the last status, and
how the script ended, if it did. -/
structure Shell where
  input : List UInt8
  output : List UInt8
  errors : List UInt8
  millis : Nat
  status : Nat
  ended : Option Exit

namespace Shell

/-- Writes bytes. -/
def write (sh : Shell) (target : Target) (bytes : List UInt8) : Shell :=
  match target with
  | .output => { sh with output := sh.output ++ bytes }
  | .errors => { sh with errors := sh.errors ++ bytes }
  | .nowhere => sh

/-- Leaves a status. -/
def leave (sh : Shell) (status : Nat) : Shell := { sh with status := status }

/-- Reads the whole input. -/
def drain (sh : Shell) : Shell := { sh with input := [] }

/-- Ends the script. -/
def endWith (sh : Shell) (exit : Exit) : Shell := { sh with ended := some exit }

end Shell

/-- A number in decimal, zero if it is none. -/
def number (s : String) : Nat := (Text.readDecimal? s.toList).getD 0

/-- The signal of a number or a name. -/
def signal (s : String) : Nat :=
  match Text.readDecimal? s.toList with
  | some n => n
  | none =>
    ((List.range 32).find? fun n =>
      (Exit.signalName n).any fun name => name == s || name == "SIG" ++ s).getD 15

/-- The milliseconds of a number of seconds. -/
def sleepMillis (s : String) : Nat :=
  let whole := s.toList.takeWhile Char.isDigit
  let fraction := (s.toList.drop (whole.length + 1)).takeWhile Char.isDigit
  1000 * Text.decimalValue whole + Text.decimalValue ((fraction ++ ['0', '0', '0']).take 3)

/-- How long a command takes that never ends, in milliseconds. -/
def forever : Nat := 1000000000000

/-- Runs a command. -/
def command (sh : Shell) (words : List String) : Shell :=
  let (words, out, err) := redirect .output .errors words
  match words with
  | [] => sh
  | name :: args =>
    match name, args with
    | "cat", [] => ((sh.write out sh.input).drain).leave 0
    | "cat", ["-"] => ((sh.write out sh.input).drain).leave 0
    | "echo", "-n" :: args => (sh.write out (unescape (String.intercalate " " args).toList)).leave 0
    | "echo", args =>
      (sh.write out (unescape (String.intercalate " " args).toList ++ [10])).leave 0
    | "printf", format :: args =>
      (sh.write out (unescape (fillFormat args format.toList))).leave 0
    | "exit", [] => sh.endWith (.code sh.status)
    | "exit", n :: _ => sh.endWith (.code (if n = "$?" then sh.status else number n % 256))
    | "kill", ["$$"] => sh.endWith (.signal 15)
    | "kill", ["-s", name, "$$"] => sh.endWith (.signal (signal name))
    | "kill", [option, "$$"] => sh.endWith (.signal (signal (String.ofList (option.toList.drop 1))))
    | "wc", ["-c"] =>
      ((sh.write out (Text.encode (toString sh.input.length ++ "\n"))).drain).leave 0
    | "head", ["-c", n] => ((sh.write out (sh.input.take (number n))).drain).leave 0
    | "sleep", n :: _ =>
      let lasts := if n = "infinity" then forever else sleepMillis n
      { sh with millis := sh.millis + lasts, status := 0 }
    | "while", _ => { sh with millis := sh.millis + forever }
    | "yes", _ => { sh with millis := sh.millis + forever }
    | "true", _ => sh.leave 0
    | ":", _ => sh.leave 0
    | "false", _ => sh.leave 1
    | name, _ => (sh.write err (Text.encode ("sh: 1: " ++ name ++ ": not found\n"))).leave 127

/-- Runs a command that may take the place of the script, which ends with it then. -/
def commandOrExec (sh : Shell) : List String → Shell
  | "exec" :: words =>
    let sh := command sh words
    if sh.ended.isSome then sh else sh.endWith (.code sh.status)
  | words => command sh words

/-- Runs the commands of a pipeline. What a command writes is the input of the one behind it. -/
def runCommands (sh : Shell) : List (List String) → Shell
  | [] => sh
  | [words] => commandOrExec sh words
  | words :: rest =>
    let first := command { sh with output := [] } words
    let piped := { first with input := first.output, output := sh.output, ended := none }
    { runCommands piped rest with input := first.input }

/-- Runs pipelines, as long as the script has not ended. -/
def runPipelines (sh : Shell) : List Pipeline → Shell
  | [] => sh
  | p :: rest =>
    let due := match p.condition with
      | .always => true
      | .afterSuccess => sh.status == 0
      | .afterFailure => sh.status != 0
    let sh := if due then runCommands sh p.commands else sh
    if sh.ended.isSome then sh else runPipelines sh rest

/-- The run of a script on a document. -/
def run (source document : String) : Run :=
  let sh := runPipelines ⟨Text.encode document, [], [], 0, 0, none⟩ (pipelines (tokens source))
  ⟨.ofMillis sh.millis, sh.ended.getD (.code sh.status), sh.output, sh.errors⟩

/-- The program that a script is. -/
def program (source : String) : Program := .present (run source)

end Galley.Script
