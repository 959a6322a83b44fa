import Galley.Config.Setting
import Galley.Config.Toml.Moment
import Galley.Text.Digits
import Galley.Word

/-!
# TOML

Reads a TOML document as settings. The document is a list of lines: a key with a value, the header
of a table, or the header of one more table in a list of tables. Tables can be opened implicitly, by
the header of a table inside them or by a dotted key; what has been closed (a value, an inline
table, a table that has had its header) cannot be opened again in another way. Dates and times
become text. Nothing is nested deeper than `maxDepth`, and no dotted key is longer.
-/

namespace Galley.Config.Toml

/-- How deep values can be nested, and how many keys a dotted key can have. -/
def maxDepth : Nat := 79

/-- How a table came to be. -/
inductive Origin where
  | implied
  | headed
  | dotted
  | inlined
  deriving DecidableEq, Repr

/-- A part of a document. -/
inductive Node where
  | leaf (value : Setting)
  | moment (value : Moment)
  | list (items : List Node)
  | table (origin : Origin) (members : List (String × Node))
  | tables (done : List (List (String × Node))) (last : List (String × Node))

/-- The members of a table, in the order in which they came to be. -/
abbrev Members := List (String × Node)

/-- The key with which a table stands for a moment, if it is the first one. -/
def momentKey : String := "$__toml_private_datetime"

mutual

/-- The setting that a part of a document stands for. -/
def Node.toSetting? : Node → Option Setting
  | .leaf value => some value
  | .moment value => some (.string value.print)
  | .list items => (itemsToSetting? items).map .array
  | .table _ members => tableToSetting? members
  | .tables done last => do
    return .array ((← tablesToSetting? done) ++ [← tableToSetting? last])

/-- The items of a list as settings. -/
def itemsToSetting? : List Node → Option (List Setting)
  | [] => some []
  | item :: items => do return (← item.toSetting?) :: (← itemsToSetting? items)

/-- The setting that a table stands for. -/
def tableToSetting? : List (String × Node) → Option Setting
  | [] => some (.object [])
  | (name, node) :: rest =>
    if name = momentKey then
      match node with
      | .leaf (.string s) => (Moment.read? s).map fun moment => .string moment.print
      | _ => none
    else do
      let value ← node.toSetting?
      return .object (Json.insertMember name value (← membersToSetting? rest))

/-- The members of a table as settings. -/
def membersToSetting? : List (String × Node) → Option (List (String × Setting))
  | [] => some []
  | (name, node) :: rest => do
    return Json.insertMember name (← node.toSetting?) (← membersToSetting? rest)

/-- The tables of a list as settings. -/
def tablesToSetting? : List (List (String × Node)) → Option (List Setting)
  | [] => some []
  | members :: rest => do return (← tableToSetting? members) :: (← tablesToSetting? rest)

end

-- ---------------------------------------------------------------------------
-- Characters
-- ---------------------------------------------------------------------------

/-- A reading step: a value and the rest of the text, or nothing. -/
abbrev Reader (α : Type) := List Char → Option (α × List Char)

/-- Whether a character is a blank within a line. -/
def isBlank (c : Char) : Bool := c == ' ' || c == '\t'

/-- The text after blanks. -/
def skipBlank (cs : List Char) : List Char := cs.dropWhile isBlank

/-- Whether a character can stand in a text or a comment. -/
def isPlain (c : Char) : Bool := c == '\t' || (0x20 ≤ c.toNat && c.toNat != 0x7f)

/-- The text after a line end; the end of the document is one. -/
def lineEnd? : List Char → Option (List Char)
  | [] => some []
  | '\n' :: cs => some cs
  | '\r' :: '\n' :: cs => some cs
  | _ => none

/-- The text after blanks, a comment and the line end. -/
def endLine? (cs : List Char) : Option (List Char) :=
  match skipBlank cs with
  | '#' :: cs => lineEnd? (cs.dropWhile isPlain)
  | cs => lineEnd? cs

/-- The text after blanks, line ends and comments. The fuel bounds the length of the text. -/
def skipLines : (fuel : Nat) → List Char → Option (List Char)
  | 0, _ => none
  | fuel + 1, cs =>
    match skipBlank cs with
    | '#' :: cs => (lineEnd? (cs.dropWhile isPlain)).bind (skipLines fuel)
    | '\n' :: cs => skipLines fuel cs
    | '\r' :: '\n' :: cs => skipLines fuel cs
    | cs => some cs

-- ---------------------------------------------------------------------------
-- Text
-- ---------------------------------------------------------------------------

/-- Reads the number of an escaped character from hexadecimal digits. -/
def readCode : (digits : Nat) → (value : Nat) → Reader Char
  | 0, n, cs => if h : n.isValidChar then some (Char.ofNatAux n h, cs) else none
  | digits + 1, n, c :: cs => do readCode digits (16 * n + (← Text.hexValue c)) cs
  | _ + 1, _, [] => none

/-- Reads an escaped character after its backslash. -/
def readEscape : Reader Char
  | 'b' :: cs => some ('\x08', cs)
  | 't' :: cs => some ('\t', cs)
  | 'n' :: cs => some ('\n', cs)
  | 'f' :: cs => some ('\x0c', cs)
  | 'r' :: cs => some ('\r', cs)
  | '"' :: cs => some ('"', cs)
  | '\\' :: cs => some ('\\', cs)
  | 'u' :: cs => readCode 4 0 cs
  | 'U' :: cs => readCode 8 0 cs
  | _ => none

/-- Reads a text in double quotes, its opening quote passed. -/
def readBasic : (fuel : Nat) → (done : List Char) → Reader (List Char)
  | 0, _, _ => none
  | fuel + 1, done, cs =>
    match cs with
    | '"' :: cs => some (done.reverse, cs)
    | '\\' :: cs => do
      let (c, cs) ← readEscape cs
      readBasic fuel (c :: done) cs
    | c :: cs => if isPlain c then readBasic fuel (c :: done) cs else none
    | [] => none

/-- Reads a text in single quotes, its opening quote passed. -/
def readLiteral (cs : List Char) : Option (List Char × List Char) :=
  let body := cs.takeWhile fun c => isPlain c && c != '\x27'
  match cs.drop body.length with
  | '\x27' :: rest => some (body, rest)
  | _ => none

/-- Passes over the three quotes that end a text over several lines; up to two more before them
belong to the text. -/
def closeLong (quote : Char) (cs : List Char) : Option (List Char × List Char) :=
  let run := (cs.takeWhile (· == quote)).length
  if run < 3 ∨ 5 < run then none
  else some (List.replicate (run - 3) quote, cs.drop run)

/-- The text after blanks and line ends. -/
def skipBreaks : List Char → List Char
  | '\r' :: '\n' :: cs => skipBreaks cs
  | c :: cs => if isBlank c || c == '\n' then skipBreaks cs else c :: cs
  | [] => []

/-- The text after a backslash that ends a line, and the blanks and line ends after it. -/
def joinLines? (cs : List Char) : Option (List Char) := (lineEnd? (skipBlank cs)).map skipBreaks

/-- Reads a text over several lines, its opening quotes passed; with single quotes nothing in it is
escaped. -/
def readLong (quote : Char) : (fuel : Nat) → (done : List Char) → Reader (List Char)
  | 0, _, _ => none
  | fuel + 1, done, cs =>
    match cs with
    | [] => none
    | '\r' :: '\n' :: cs => readLong quote fuel ('\n' :: done) cs
    | c :: rest =>
      if c = quote then
        match closeLong quote cs with
        | some (more, rest) => some (done.reverse ++ more, rest)
        | none =>
          if ((c :: rest).takeWhile (· == quote)).length < 3 then
            readLong quote fuel (c :: done) rest
          else none
      else if c = '\\' ∧ quote = '"' then
        match joinLines? rest with
        | some rest => if rest.isEmpty then none else readLong quote fuel done rest
        | none => do
          let (c, rest) ← readEscape rest
          readLong quote fuel (c :: done) rest
      else if isPlain c ∨ c = '\n' then readLong quote fuel (c :: done) rest
      else none

/-- The text after a line end right behind opening quotes. -/
def dropFirstLine : List Char → List Char
  | '\n' :: cs => cs
  | '\r' :: '\n' :: cs => cs
  | cs => cs

/-- Reads a text in quotes of any kind. -/
def readText (fuel : Nat) (cs : List Char) : Option (List Char × List Char) :=
  match cs with
  | '"' :: '"' :: '"' :: cs => readLong '"' fuel [] (dropFirstLine cs)
  | '\x27' :: '\x27' :: '\x27' :: cs => readLong '\x27' fuel [] (dropFirstLine cs)
  | '"' :: cs => readBasic fuel [] cs
  | '\x27' :: cs => readLiteral cs
  | _ => none

-- ---------------------------------------------------------------------------
-- Keys
-- ---------------------------------------------------------------------------

/-- Whether a key without quotes can hold a character. -/
def isKeyChar (c : Char) : Bool := c.isAlphanum || c == '_' || c == '-'

/-- Reads one key. -/
def readKey (fuel : Nat) (cs : List Char) : Option (String × List Char) :=
  match cs with
  | '"' :: cs => (readBasic fuel [] cs).map fun (key, cs) => (String.ofList key, cs)
  | '\x27' :: cs => (readLiteral cs).map fun (key, cs) => (String.ofList key, cs)
  | cs =>
    let key := cs.takeWhile isKeyChar
    if key.isEmpty then none else some (String.ofList key, cs.dropWhile isKeyChar)

/-- Reads at most so many keys parted by dots. The fuel bounds the length of the text. -/
def readKeysUpTo (fuel : Nat) : (most : Nat) → Reader (List String)
  | 0, _ => none
  | most + 1, cs => do
    let (key, cs) ← readKey fuel (skipBlank cs)
    match skipBlank cs with
    | '.' :: cs => do
      let (keys, cs) ← readKeysUpTo fuel most cs
      return (key :: keys, cs)
    | cs => return ([key], cs)

/-- Reads keys parted by dots. -/
def readKeys (fuel : Nat) : Reader (List String) := readKeysUpTo fuel maxDepth

-- ---------------------------------------------------------------------------
-- Numbers, dates and times
-- ---------------------------------------------------------------------------

/-- The digits of a number: each underscore stands between two digits. -/
def dropUnderscores (isDigit : Char → Bool) : (after : Bool) → List Char → Option (List Char)
  | after, [] => if after then some [] else none
  | after, '_' :: cs =>
    if after ∧ cs.head?.any isDigit then dropUnderscores isDigit false cs else none
  | _, c :: cs => if isDigit c then (dropUnderscores isDigit true cs).map (c :: ·) else none

/-- The digits of a decimal number without underscores, which must not start with a zero that is
not alone. -/
def decimal? (cs : List Char) : Option (List Char) :=
  (dropUnderscores Char.isDigit false cs).filter fun ds => ds.length = 1 || ds.head? != some '0'

/-- The integer, if 64 bits can hold it. -/
def inRange (n : Int) : Option Setting :=
  if -(Word.values63 : Int) ≤ n ∧ n < Word.values63 then some (.integer n) else none

/-- The value of digits in a base. -/
def valueIn (base : Nat) (digits : List Char) : Nat :=
  digits.foldl (fun n c => base * n + (Text.hexValue c).getD 0) 0

/-- Reads a whole number in a base other than ten. -/
def inBase? (base : Nat) (cs : List Char) : Option Setting := do
  let digits ← dropUnderscores (fun c => (Text.hexValue c).any (· < base)) false cs
  inRange (valueIn base digits)

/-- Reads a number with a fraction or an exponent. One too large for a finite number is refused; its
negative is not. -/
def real? (negative : Bool) (cs : List Char) : Option Setting :=
  let whole := cs.takeWhile fun c => c != '.' && c != 'e' && c != 'E'
  let rest := cs.drop whole.length
  let (fraction, rest) := match rest with
    | '.' :: rest =>
      let fraction := rest.takeWhile fun c => c != 'e' && c != 'E'
      (some fraction, rest.drop fraction.length)
    | rest => (none, rest)
  do
    let whole ← decimal? whole
    let fraction ← match fraction with
      | some fraction => dropUnderscores Char.isDigit false fraction
      | none => some []
    let exponent ← match rest with
      | [] => some 0
      | _ :: '-' :: ds =>
        (dropUnderscores Char.isDigit false ds).map fun ds => -(valueIn 10 ds : Int)
      | _ :: '+' :: ds =>
        (dropUnderscores Char.isDigit false ds).map fun ds => (valueIn 10 ds : Int)
      | _ :: ds => (dropUnderscores Char.isDigit false ds).map fun ds => (valueIn 10 ds : Int)
    let x := Decimal.Extended.ofScaled negative (valueIn 10 (whole ++ fraction))
      (exponent - fraction.length)
    if x = .infinite false then none else some (.real x)

/-- Reads a number with or without a sign. -/
def number? (cs : List Char) : Option Setting :=
  let (signed, negative, body) := match cs with
    | '-' :: body => (true, true, body)
    | '+' :: body => (true, false, body)
    | body => (false, false, body)
  match body with
  | ['i', 'n', 'f'] => some (.real (.infinite negative))
  | ['n', 'a', 'n'] => some (.real .undefined)
  | '0' :: 'x' :: ds => if signed then none else inBase? 16 ds
  | '0' :: 'o' :: ds => if signed then none else inBase? 8 ds
  | '0' :: 'b' :: ds => if signed then none else inBase? 2 ds
  | body =>
    if body.any fun c => c == '.' || c == 'e' || c == 'E' then real? negative body
    else do
      let n := valueIn 10 (← decimal? body)
      inRange (if negative then -(n : Int) else n)

/-- Two digits within a range. -/
def twoDigits (low high : Nat) : Reader Nat
  | a :: b :: cs =>
    if a.isDigit ∧ b.isDigit then
      let n := valueIn 10 [a, b]
      if low ≤ n ∧ n ≤ high then some (n, cs) else none
    else none
  | _ => none

/-- The text after a time of day. Seconds may have a fraction. -/
def passTime? (cs : List Char) : Option (List Char) := do
  let (_, cs) ← twoDigits 0 23 cs
  let (_, cs) ← twoDigits 0 59 (← Moment.pass ':' cs)
  let (_, cs) ← twoDigits 0 60 (← Moment.pass ':' cs)
  match cs with
  | '.' :: cs => if cs.head?.any Char.isDigit then some (cs.dropWhile Char.isDigit) else none
  | cs => some cs

/-- The text after a zone, if there is one. -/
def passZone? (cs : List Char) : Option (List Char) :=
  match cs with
  | 'Z' :: cs => some cs
  | 'z' :: cs => some cs
  | c :: cs =>
    if c = '+' ∨ c = '-' then do
      let (_, cs) ← twoDigits 0 23 cs
      let (_, cs) ← twoDigits 0 59 (← Moment.pass ':' cs)
      return cs
    else some (c :: cs)
  | [] => some []

/-- The text after a date. -/
def passDate? (cs : List Char) : Option (List Char) := do
  let year := cs.take 4
  if year.length ≠ 4 ∨ !year.all Char.isDigit then none
  let (month, cs) ← twoDigits 1 12 (← Moment.pass '-' (cs.drop 4))
  let (day, cs) ← twoDigits 1 31 (← Moment.pass '-' cs)
  if day ≤ Instant.daysInMonth (valueIn 10 year) month then some cs else none

/-- Reads a date, a time, or both. -/
def readMoment (cs : List Char) : Option (Moment × List Char) := do
  let rest ← match passDate? cs with
    | none => passTime? cs
    | some rest =>
      match rest with
      | c :: time =>
        if c = 'T' ∨ c = 't' then (passTime? time).bind passZone?
        else if c = ' ' then ((passTime? time).bind passZone?).orElse fun _ => some rest
        else some rest
      | [] => some []
  return (← Moment.read? (String.ofList (cs.take (cs.length - rest.length))), rest)

/-- Whether a character belongs to a number or a word. -/
def isWordChar (c : Char) : Bool := c.isAlphanum || c ∈ ['+', '-', '.', '_']

/-- Reads a value that is neither quoted nor bracketed. -/
def readWord (cs : List Char) : Option (Node × List Char) :=
  let word := cs.takeWhile isWordChar
  let rest := cs.dropWhile isWordChar
  match String.ofList word with
  | "true" => some (.leaf (.bool true), rest)
  | "false" => some (.leaf (.bool false), rest)
  | _ =>
    match readMoment cs with
    | some (moment, rest) =>
      if rest.head?.any isWordChar then none else some (.moment moment, rest)
    | none => (number? word).map fun n => (.leaf n, rest)

-- ---------------------------------------------------------------------------
-- Tables
-- ---------------------------------------------------------------------------

/-- Replaces a member or adds it behind the others. -/
def replace (name : String) (node : Node) : Members → Members
  | [] => [(name, node)]
  | (other, held) :: rest =>
    if other = name then (name, node) :: rest else (other, held) :: replace name node rest

/-- Adds a value under dotted keys. -/
def addValue (value : Node) : (keys : List String) → Members → Option Members
  | [], _ => none
  | [key], members =>
    match members.lookup key with
    | some _ => none
    | none => some (members ++ [(key, value)])
  | key :: keys, members =>
    match members.lookup key with
    | none => do return members ++ [(key, .table .dotted (← addValue value keys []))]
    | some (.table .dotted inner) => do
      return replace key (.table .dotted (← addValue value keys inner)) members
    | some _ => none

/-- Goes to the table of some keys, opening those on the way, and changes it. -/
def changeAt (change : Members → Option Members) : (keys : List String) → Members → Option Members
  | [], members => change members
  | key :: keys, members =>
    match members.lookup key with
    | none => do return members ++ [(key, .table .implied (← changeAt change keys []))]
    | some (.table origin inner) =>
      if origin = .inlined then none
      else do return replace key (.table origin (← changeAt change keys inner)) members
    | some (.tables done last) => do
      return replace key (.tables done (← changeAt change keys last)) members
    | some _ => none

/-- Opens the table of a header. -/
def openTable (key : String) (members : Members) : Option Members :=
  match members.lookup key with
  | none => some (members ++ [(key, .table .headed [])])
  | some (.table .implied inner) => some (replace key (.table .headed inner) members)
  | some _ => none

/-- Opens one more table in a list of tables. -/
def openNext (key : String) (members : Members) : Option Members :=
  match members.lookup key with
  | none => some (members ++ [(key, .tables [] [])])
  | some (.tables done last) => some (replace key (.tables (done ++ [last]) []) members)
  | some _ => none

-- ---------------------------------------------------------------------------
-- Values
-- ---------------------------------------------------------------------------

mutual

/-- Reads a value that may be nested so many levels deep. The fuel bounds the length of the text. -/
def readValue : (fuel levels : Nat) → Reader Node
  | 0, _, _ => none
  | fuel + 1, levels, cs =>
    match levels, cs with
    | 0, '[' :: _ => none
    | 0, '\x7b' :: _ => none
    | levels + 1, '[' :: cs => do
      let (items, cs) ← readItems fuel levels (← skipLines fuel cs)
      return (.list items, cs)
    | levels + 1, '\x7b' :: cs => do
      match skipBlank cs with
      | '\x7d' :: cs => return (.table .inlined [], cs)
      | cs =>
        let (members, cs) ← readInline fuel levels [] cs
        return (.table .inlined members, cs)
    | _, c :: rest =>
      if c = '"' ∨ c = '\x27' then
        (readText fuel (c :: rest)).map fun (s, cs) => (.leaf (.string (String.ofList s)), cs)
      else readWord (c :: rest)
    | _, [] => none

/-- Reads the items of a list up to its closing bracket. -/
def readItems : (fuel levels : Nat) → Reader (List Node)
  | 0, _, _ => none
  | fuel + 1, levels, cs =>
    match cs with
    | ']' :: cs => some ([], cs)
    | cs => do
      let (item, cs) ← readValue fuel levels cs
      match ← skipLines fuel cs with
      | ',' :: cs => do
        let (items, cs) ← readItems fuel levels (← skipLines fuel cs)
        return (item :: items, cs)
      | ']' :: cs => return ([item], cs)
      | _ => none

/-- Reads the members of an inline table up to its closing brace. -/
def readInline : (fuel levels : Nat) → Members → Reader Members
  | 0, _, _, _ => none
  | fuel + 1, levels, members, cs => do
    let (keys, cs) ← readKeys fuel cs
    let (value, cs) ← readValue fuel levels (skipBlank (← Moment.pass '=' (skipBlank cs)))
    let members ← addValue value keys members
    match skipBlank cs with
    | ',' :: cs => readInline fuel levels members cs
    | '\x7d' :: cs => return (members, cs)
    | _ => none

end

-- ---------------------------------------------------------------------------
-- Documents
-- ---------------------------------------------------------------------------

/-- Reads a header: the keys of the table, and the text after it. -/
def readHeader (fuel : Nat) (cs : List Char) : Option (List String × List Char) := do
  let (keys, cs) ← readKeys fuel cs
  return (keys, ← Moment.pass ']' (skipBlank cs))

/-- Reads the lines of a document, onto the members read so far; `place` is the table whose header
came last. -/
def readLines : (fuel : Nat) → (place : List String) → Members → List Char → Option Members
  | 0, _, _, _ => none
  | fuel + 1, place, members, cs => do
    match ← skipLines (fuel + 1) cs with
    | [] => some members
    | '[' :: '[' :: cs => do
      let (keys, cs) ← readHeader fuel cs
      let members ← changeAt (openNext (keys.getLastD "")) keys.dropLast members
      readLines fuel keys members (← endLine? (← Moment.pass ']' cs))
    | '[' :: cs => do
      let (keys, cs) ← readHeader fuel cs
      let members ← changeAt (openTable (keys.getLastD "")) keys.dropLast members
      readLines fuel keys members (← endLine? cs)
    | cs => do
      let (keys, cs) ← readKeys fuel cs
      let (value, cs) ← readValue fuel maxDepth (skipBlank (← Moment.pass '=' (skipBlank cs)))
      let members ← changeAt (addValue value keys) place members
      readLines fuel place members (← endLine? cs)

/-- Reads a document, behind the mark that it is in UTF-8, if it has one. -/
def parse? (text : String) : Option Setting :=
  let cs := match text.toList with
    | '\uFEFF' :: cs => cs
    | cs => cs
  readLines (cs.length + 2) [] [] cs >>= tableToSetting?

end Galley.Config.Toml
