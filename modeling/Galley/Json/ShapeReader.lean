import Galley.Json.Shape

/-!
# Reading shapes from text

Reads the data of a shape straight from a text. The text is taken character by character, so the
fault that is reported is the first one met, be it in the text or in its shape. A fault of shape
stands after the value it is about, if that value is a string, a number or a word, and before it if
it is a list or an object. A record that lacks a field, or holds one twice, is at fault where it
ends.
-/

namespace Galley.Json

/-- Places a mismatch at the rest of the text. -/
def atRest {α : Type} (rest : List Char) : Except Mismatch α → Except Fault (α × List Char)
  | .ok x => .ok (x, rest)
  | .error cause => .error (.data cause rest)

/-- The fault of a value of the wrong kind that starts with a character. -/
def readWrong {α : Type} (fuel : Nat) (expected : String) (c : Char) (rest : List Char) :
    Except Fault (α × List Char) :=
  if c = '[' then .error (.data (.wrongType .sequence expected) (c :: rest))
  else if c = '{' then .error (.data (.wrongType .map expected) (c :: rest))
  else match readScalar fuel c rest with
    | .error fault => .error fault
    | .ok (value, rest) => .error (.data (.wrongType (Found.of value) expected) rest)

/-- Reads a value whose first character, after blanks, decides. -/
def onFirst {α : Type} (next : Char → Reader α) : Reader α := fun cs =>
  match skipBlank cs with
  | [] => .error (.here .endInValue [])
  | c :: rest => next c rest

/-- Reads a string and reads data off it. -/
def readTextAs {α : Type} (fuel : Nat) (expected : String)
    (ofText : String → Except Mismatch α) : Reader α :=
  onFirst fun c rest =>
    if c = '"' then do
      let (s, rest) ← readString fuel rest
      atRest rest (ofText s)
    else readWrong fuel expected c rest

/-- Reads a number and reads data off it. -/
def readNumberAs {α : Type} (fuel : Nat) (expected : String)
    (ofNumber : Number → Except Mismatch α) :
    Reader α :=
  onFirst fun c rest =>
    if c = '-' then do
      let (n, rest) ← readNumber true rest
      atRest rest (ofNumber n)
    else if c.isDigit then do
      let (n, rest) ← readNumber false (c :: rest)
      atRest rest (ofNumber n)
    else readWrong fuel expected c rest

/-- Reads a truth value. -/
def readFlag (fuel : Nat) : Reader Bool :=
  onFirst fun c rest =>
    if c = 't' then (readWord ['r', 'u', 'e'] rest).map fun rest => (true, rest)
    else if c = 'f' then (readWord ['a', 'l', 's', 'e'] rest).map fun rest => (false, rest)
    else readWrong fuel Shape.flag.expected c rest

/-- Opens a list or an object of one more level. -/
def opening {α : Type} (c : Char) (levels : Nat) (inside : (levels : Nat) → Reader α) : Reader α :=
  fun rest =>
    match levels with
    | 0 => .error (.peeked .nestedTooDeep (c :: rest))
    | levels + 1 => inside levels rest

/-- Ends an object that holds a choice. -/
def closeChoice (cs : List Char) : Except Fault (List Char) :=
  match skipBlank cs with
  | [] => .error (.here .endInObject [])
  | '}' :: rest => .ok rest
  | rest => .error (.here .expectedValue rest)

/-- Reads a choice: a string, or an object whose one member has its name and the value `null`. -/
def readChoice (fuel : Nat) (names : List String) (levels : Nat) :
    Reader (Fin names.length) := fun cs =>
  match skipBlank cs with
  | [] => .error (.here .endInValue [])
  | c :: rest =>
    if c = '"' then do
      let (s, rest) ← readString fuel rest
      atRest rest (choiceOfText names s)
    else if c = '{' then
      opening c levels (fun _ rest => do
        let (i, rest) ← readTextAs fuel "variant identifier" (choiceOfText names) rest
        let rest ← readColon rest
        let (_, rest) ← onFirst (fun c rest =>
          if c = 'n' then (readWord ['u', 'l', 'l'] rest).map fun rest => ((), rest)
          else readWrong fuel "unit" c rest) rest
        return (i, ← closeChoice rest)) rest
    else .error (.peeked .expectedValue (c :: rest))

/-- Reads the members of a table. -/
def readTable {α : Type} (fuel : Nat) (value : Reader α) : Reader (List (String × α)) := fun cs =>
  let member (name : String) (held : List (String × α)) : Reader (List (String × α)) := fun cs => do
    let (x, cs) ← underName name value cs
    return (insertMember name x held, cs)
  readMembers member fuel true [] cs

mutual

/-- Reads the data of a shape from a text. `levels` more levels of lists and objects may be
opened. -/
def Shape.read (fuel : Nat) : (shape : Shape) → (levels : Nat) → Reader shape.Value
  | .text, _ => readTextAs fuel Shape.text.expected .ok
  | .flag, _ => readFlag fuel
  | .word32, _ => readNumberAs fuel Shape.word32.expected word32OfNumber
  | .word64, _ => readNumberAs fuel Shape.word64.expected word64OfNumber
  | .uuid, _ => readTextAs fuel Shape.uuid.expected uuidOfText
  | .instant, _ => readTextAs fuel Shape.instant.expected instantOfText
  | .json, levels => readValue fuel levels
  | .list item, levels =>
    onFirst fun c rest =>
      if c = '[' then
        opening c levels
          (fun levels rest => readItems (fun cs => item.read fuel levels cs) fuel 0 rest) rest
      else readWrong fuel (Shape.list item).expected c rest
  | .table value, levels =>
    onFirst fun c rest =>
      if c = '{' then
        opening c levels
          (fun levels rest => readTable fuel (fun cs => value.read fuel levels cs) rest) rest
      else readWrong fuel (Shape.table value).expected c rest
  | .nullable inner, levels => fun cs =>
    match skipBlank cs with
    | 'n' :: rest => (readWord ['u', 'l', 'l'] rest).map fun rest => (none, rest)
    | cs => (inner.read fuel levels cs).map fun (x, rest) => (some x, rest)
  | .choice names, levels => readChoice fuel names levels
  | .record name fields, levels =>
    onFirst fun c rest =>
      if c = '{' then
        opening c levels (fun levels rest => do
          let (slots, rest) ← readMembers
            (fun name slots cs => fields.readMember fuel levels name slots cs) fuel true
            fields.emptySlots rest
          atRest rest (fields.collect slots)) rest
      else if c = '[' then
        opening c levels (fun levels rest => do
          let (xs, rest) ← fields.readList fuel (fields.expectedLength name) levels 0 rest
          return (xs, ← closeList rest)) rest
      else readWrong fuel (Shape.record name fields).expected c rest

/-- Reads on after the name of a member: a field, which must not have been read before, or the
value of an unknown name, which is skipped. -/
def Fields.readMember (fuel : Nat) :
    (fields : Fields) → (levels : Nat) → (name : String) → fields.Slots → Reader fields.Slots
  | .nil, _, wanted, slots =>
    underName wanted fun cs => (skipValue fuel cs).map fun cs => (slots, cs)
  | .cons name _ shape rest, levels, wanted, (slot, slots) =>
    if name = wanted then
      if slot.isSome then fun cs => .error (.data (.duplicateField name) (abandonObject cs))
      else
        underName wanted fun cs =>
          (shape.read fuel levels cs).map fun (x, cs) => ((some x, slots), cs)
    else
      fun cs =>
        (rest.readMember fuel levels wanted slots cs).map fun (slots, cs) => ((slot, slots), cs)

/-- Reads the fields of a record off a list; the first of them has the given place in the record. -/
def Fields.readList (fuel : Nat) (expected : String) : (fields : Fields) → (levels place : Nat) →
    Reader fields.Values
  | .nil, _, _ => fun cs => .ok ((), cs)
  | .cons _ presence shape rest, levels, place => fun cs =>
    match nextItem (place == 0) cs with
    | .error fault => .error (fault.under (.index place))
    | .ok (false, cs) =>
      match presence with
      | .required => .error (.data (.wrongLength place expected) (cs.drop 1))
      | .optional => do
        let (xs, cs) ← rest.readList fuel expected levels (place + 1) cs
        return ((none, xs), cs)
    | .ok (true, cs) =>
      match shape.read fuel levels cs with
      | .error fault => .error (fault.under (.index place))
      | .ok (x, cs) => do
        let (xs, cs) ← rest.readList fuel expected levels (place + 1) cs
        return (match presence with
          | .required => (x, xs)
          | .optional => (some x, xs), cs)

end

/-- Reads a text that is one value of the shape. -/
def Shape.parse (shape : Shape) (text : String) : Except Fault shape.Value :=
  readText (fun fuel => shape.read fuel nestingLimit) text.toList

end Galley.Json
