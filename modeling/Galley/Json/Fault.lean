import Galley.Json.Printer
import Galley.Text.Visible

/-!
# Faults in JSON input

Why an input is not the JSON that was asked for: either the text is no JSON, or it is JSON of
another shape (`Mismatch`). A fault found in a text also says where, as a line and a column counted
in bytes, and under which path of keys and indices.
-/

namespace Galley.Json

/-- What stands where something else was expected. -/
inductive Found where
  | null
  | bool (value : Bool)
  | integer (value : Int)
  | real (value : Binary64)
  | string (value : String)
  | sequence
  | map
  deriving Repr, DecidableEq

/-- A value as it is named in a fault. -/
def Found.of : Json → Found
  | .null => .null
  | .bool b => .bool b
  | .number (.integer n) => .integer n
  | .number (.real x) => .real x
  | .string s => .string s
  | .array _ => .sequence
  | .object _ => .map

/-- Why a JSON value has another shape than the one asked for. -/
inductive Mismatch where
  | missingField (name : String)
  | duplicateField (name : String)
  | wrongType (found : Found) (expected : String)
  | outOfRange (found : Int) (expected : String)
  | wrongLength (length : Nat) (expected : String)
  | unknownVariant (name : String) (known : List String)
  | severalKeys
  | unreadable (message : String)
  deriving Repr, DecidableEq

/-- Why an input is refused. -/
inductive Reason where
  | endInValue
  | endInObject
  | endInList
  | endInString
  | expectedValue
  | expectedWord
  | expectedColon
  | expectedMemberEnd
  | expectedItemEnd
  | trailingComma
  | trailingText
  | keyNoString
  | malformedNumber
  | numberTooLarge
  | unknownEscape
  | controlCharacter
  | unpairedSurrogate
  | endOfEscape
  | nestedTooDeep
  | mismatch (cause : Mismatch)
  deriving Repr, DecidableEq

/-- The three kinds of reason: malformed text, text that ends too early, and data of another
shape. -/
inductive Category where
  | malformed
  | incomplete
  | data
  deriving Repr, DecidableEq

/-- The kind of a reason. -/
def Reason.category : Reason → Category
  | endInValue | endInObject | endInList | endInString => .incomplete
  | mismatch _ => .data
  | _ => .malformed

-- ---------------------------------------------------------------------------
-- Wording
-- ---------------------------------------------------------------------------

/-- A character inside a quoted text of a message. -/
def quoteChar (c : Char) : String :=
  if c = '"' then "\\\""
  else if c = '\\' then "\\\\"
  else if c = '\n' then "\\n"
  else if c = '\r' then "\\r"
  else if c = '\t' then "\\t"
  else if c = '\x00' then "\\0"
  else if Text.isVisible c then c.toString
  else "\\u\x7b" ++ String.ofList (Nat.toDigits 16 c.toNat) ++ "\x7d"

/-- A text in quotes, as a message shows it. -/
def quoteText (s : String) : String := "\"" ++ String.join (s.toList.map quoteChar) ++ "\""

/-- A text between grave accents. -/
def tick (s : String) : String := "`" ++ s ++ "`"

/-- The wording of what was found. -/
def Found.message : Found → String
  | null => "null"
  | bool b => "boolean " ++ tick (if b then "true" else "false")
  | integer n => "integer " ++ tick (toString n)
  | real x => "floating point " ++ tick (String.ofList (printReal x))
  | string s => "string " ++ quoteText s
  | sequence => "sequence"
  | map => "map"

/-- The wording of a choice of names. -/
def oneOf : List String → String
  | [] => "there are no variants"
  | [a] => "expected " ++ tick a
  | [a, b] => "expected " ++ tick a ++ " or " ++ tick b
  | names => "expected one of " ++ String.intercalate ", " (names.map tick)

/-- The wording of a mismatch. -/
def Mismatch.message : Mismatch → String
  | missingField name => "missing field " ++ tick name
  | duplicateField name => "duplicate field " ++ tick name
  | wrongType found expected => "invalid type: " ++ found.message ++ ", expected " ++ expected
  | outOfRange found expected =>
    "invalid value: integer " ++ tick (toString found) ++ ", expected " ++ expected
  | wrongLength length expected =>
    "invalid length " ++ toString length ++ ", expected " ++ expected
  | unknownVariant name known => "unknown variant " ++ tick name ++ ", " ++ oneOf known
  | severalKeys => "invalid value: map, expected map with a single key"
  | unreadable message => message

/-- The wording of a reason. -/
def Reason.message : Reason → String
  | endInValue => "EOF while parsing a value"
  | endInObject => "EOF while parsing an object"
  | endInList => "EOF while parsing a list"
  | endInString => "EOF while parsing a string"
  | expectedValue => "expected value"
  | expectedWord => "expected ident"
  | expectedColon => "expected `:`"
  | expectedMemberEnd => "expected `,` or `\x7d`"
  | expectedItemEnd => "expected `,` or `]`"
  | trailingComma => "trailing comma"
  | trailingText => "trailing characters"
  | keyNoString => "key must be a string"
  | malformedNumber => "invalid number"
  | numberTooLarge => "number out of range"
  | unknownEscape => "invalid escape"
  | controlCharacter => "control character (\\u0000-\\u001F) found while parsing a string"
  | unpairedSurrogate => "lone leading surrogate in hex escape"
  | endOfEscape => "unexpected end of hex escape"
  | nestedTooDeep => "recursion limit exceeded"
  | mismatch cause => cause.message

-- ---------------------------------------------------------------------------
-- Places
-- ---------------------------------------------------------------------------

/-- One step of a path into a value. -/
inductive Segment where
  | key (name : String)
  | index (position : Nat)
  deriving Repr, DecidableEq

/-- The written form of a path: keys parted by dots, indices in brackets. -/
def printPath : List Segment → String
  | [] => ""
  | .key name :: rest => name ++ more rest
  | .index i :: rest => "[" ++ toString i ++ "]" ++ more rest
where
  more : List Segment → String
    | [] => ""
    | .key name :: rest => "." ++ name ++ more rest
    | .index i :: rest => "[" ++ toString i ++ "]" ++ more rest

/-- A fault in a text. It is placed after everything before `rest`, and after the first `ahead`
bytes of `rest` if it was found by looking at them. -/
structure Fault where
  reason : Reason
  rest : List Char
  ahead : Nat
  path : List Segment

namespace Fault

/-- A fault at the place that has been read up to. -/
def here (reason : Reason) (rest : List Char) : Fault := ⟨reason, rest, 0, []⟩

/-- A fault that the next character shows. -/
def peeked (reason : Reason) (rest : List Char) : Fault := ⟨reason, rest, 1, []⟩

/-- A mismatch at the place that has been read up to. -/
def data (cause : Mismatch) (rest : List Char) : Fault := here (.mismatch cause) rest

/-- The fault seen from outside a part of a value. -/
def under (segment : Segment) (fault : Fault) : Fault :=
  { fault with path := segment :: fault.path }

end Fault

/-- A line and a column; lines count from one, columns count the bytes since the line began. -/
structure Position where
  line : Nat
  column : Nat
  deriving Repr, DecidableEq

namespace Position

/-- The place before the first byte. -/
def start : Position := ⟨1, 0⟩

/-- The place after one more byte. -/
def afterByte (p : Position) (byte : UInt8) : Position :=
  if byte = 10 then ⟨p.line + 1, 0⟩ else { p with column := p.column + 1 }

/-- The place after one more character. -/
def afterChar (p : Position) (c : Char) : Position :=
  if c = '\n' then ⟨p.line + 1, 0⟩ else { p with column := p.column + c.utf8Size }

end Position

/-- Where a fault stands in the text that was read. -/
def Fault.position (text : List Char) (fault : Fault) : Position :=
  let consumed := text.take (text.length - fault.rest.length)
  let seen := ((fault.rest.take fault.ahead).flatMap String.utf8EncodeChar).take fault.ahead
  seen.foldl Position.afterByte (consumed.foldl Position.afterChar .start)

/-- The wording of a fault and its place. -/
def Fault.message (text : List Char) (fault : Fault) : String :=
  let p := fault.position text
  fault.reason.message ++ " at line " ++ toString p.line ++ " column " ++ toString p.column

end Galley.Json
