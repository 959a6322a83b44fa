import Galley.Identity.Uuid
import Galley.Json.Reader
import Galley.Time.Timestamp
import Galley.Word

/-!
# Shapes

A *shape* says what JSON a record or a field is. From one shape three things follow: the type of
the data (`Shape.Value`), its JSON (`Shape.encode`), and two ways to read it back: from a JSON
value (`Shape.decode`) and straight from a text (`Shape.read`), where the first fault in the order
of the text is the one that is reported.

A record is an object whose members may come in any order, or a list of its fields in order. Members
of other names are skipped. An optional field may be left out; so may, in an object, a required
field that can be `null`. A field without a value is never written.
-/

namespace Galley.Json

/-- Whether a field may be left out. -/
inductive Presence where
  | required
  | optional
  deriving Repr, DecidableEq

mutual

/-- What JSON a value is written as. -/
inductive Shape where
  | text
  | flag
  | word32
  | word64
  | uuid
  | instant
  | json
  | list (item : Shape)
  | table (value : Shape)
  | nullable (inner : Shape)
  | choice (names : List String)
  | record (name : String) (fields : Fields)

/-- The fields of a record, in order. -/
inductive Fields where
  | nil
  | cons (name : String) (presence : Presence) (shape : Shape) (rest : Fields)

end

/-- The type of a field of the given presence. -/
@[reducible] def Presence.Of (α : Type) : Presence → Type
  | required => α
  | optional => Option α

mutual

/-- The type of the data of a shape. -/
@[reducible] def Shape.Value : Shape → Type
  | .text => String
  | .flag => Bool
  | .word32 => UInt32
  | .word64 => Nat
  | .uuid => Uuid
  | .instant => Instant
  | .json => Json
  | .list item => List item.Value
  | .table value => List (String × value.Value)
  | .nullable inner => Option inner.Value
  | .choice names => Fin names.length
  | .record _ fields => fields.Values

/-- The type of the data of a record. -/
@[reducible] def Fields.Values : Fields → Type
  | .nil => Unit
  | .cons _ presence shape rest => presence.Of shape.Value × rest.Values

end

/-- The number of fields. -/
def Fields.count : Fields → Nat
  | .nil => 0
  | .cons _ _ _ rest => rest.count + 1

/-- What a message says was expected. -/
def Shape.expected : Shape → String
  | .text => "a string"
  | .flag => "a boolean"
  | .word32 => "u32"
  | .word64 => "u64"
  | .uuid => "a formatted UUID string"
  | .instant => "an RFC 3339 formatted date and time string"
  | .json => "any valid JSON value"
  | .list _ => "a sequence"
  | .table _ => "a map"
  | .nullable inner => inner.expected
  | .choice _ => "string or map"
  | .record name _ => "struct " ++ name

/-- What a message says a list of fields was expected to be. -/
def Fields.expectedLength (name : String) (fields : Fields) : String :=
  "struct " ++ name ++ " with " ++ toString fields.count
    ++ (if fields.count = 1 then " element" else " elements")

-- ---------------------------------------------------------------------------
-- Encoding
-- ---------------------------------------------------------------------------

/-- Whether data say that there is no value. -/
def Shape.isAbsent : (shape : Shape) → shape.Value → Bool
  | .nullable _, none => true
  | _, _ => false

mutual

/-- The JSON of data. -/
def Shape.encode : (shape : Shape) → shape.Value → Json
  | .text, s => .string s
  | .flag, b => .bool b
  | .word32, n => Json.nat n.toNat
  | .word64, n => Json.nat n
  | .uuid, u => .string u.toText
  | .instant, t => .string (Time.print t)
  | .json, j => j
  | .list item, xs => .array (xs.map item.encode)
  | .table value, members => .object (members.map fun (name, x) => (name, value.encode x))
  | .nullable _, none => .null
  | .nullable inner, some x => inner.encode x
  | .choice names, i => .string (names.get i)
  | .record _ fields, xs => .object (fields.encode xs)

/-- The members of a record; fields without a value are left out. -/
def Fields.encode : (fields : Fields) → fields.Values → List (String × Json)
  | .nil, _ => []
  | .cons name .required shape rest, (x, xs) =>
    if shape.isAbsent x then rest.encode xs else (name, shape.encode x) :: rest.encode xs
  | .cons name .optional shape rest, (some x, xs) =>
    if shape.isAbsent x then rest.encode xs else (name, shape.encode x) :: rest.encode xs
  | .cons _ .optional _ rest, (none, xs) => rest.encode xs

end

-- ---------------------------------------------------------------------------
-- Leaves
-- ---------------------------------------------------------------------------

/-- Reads a 32-bit number off a JSON number. -/
def word32OfNumber : Number → Except Mismatch UInt32
  | .integer n =>
    if 0 ≤ n ∧ n < Word.values32 then .ok (UInt32.ofNat n.toNat)
    else .error (.outOfRange n Shape.word32.expected)
  | .real x => .error (.wrongType (.real x) Shape.word32.expected)

/-- Reads a 64-bit number off a JSON number. -/
def word64OfNumber : Number → Except Mismatch Nat
  | .integer n =>
    if 0 ≤ n ∧ n < Word.values64 then .ok n.toNat else .error (.outOfRange n Shape.word64.expected)
  | .real x => .error (.wrongType (.real x) Shape.word64.expected)

/-- Reads an identifier off a string. -/
def uuidOfText (s : String) : Except Mismatch Uuid :=
  match Uuid.read s with
  | .ok u => .ok u
  | .error e => .error (.unreadable ("UUID parsing failed: " ++ e.message))

/-- Reads an instant off a string. -/
def instantOfText (s : String) : Except Mismatch Instant :=
  match Time.read s with
  | .ok t => .ok t
  | .error e => .error (.unreadable e.message)

/-- The place of a name among the names of a choice. -/
def choiceOfText (names : List String) (s : String) : Except Mismatch (Fin names.length) :=
  if h : names.idxOf s < names.length then .ok ⟨names.idxOf s, h⟩
  else .error (.unknownVariant s names)

/-- The mismatch of a value of the wrong kind. -/
def wrong {α : Type} (found : Json) (expected : String) : Except Mismatch α :=
  .error (.wrongType (Found.of found) expected)

-- ---------------------------------------------------------------------------
-- Fields on the way
-- ---------------------------------------------------------------------------

/-- The fields of a record that have been read so far. -/
@[reducible] def Fields.Slots : Fields → Type
  | .nil => Unit
  | .cons _ _ shape rest => Option shape.Value × rest.Slots

/-- No field has been read. -/
def Fields.emptySlots : (fields : Fields) → fields.Slots
  | .nil => ()
  | .cons _ _ _ rest => (none, rest.emptySlots)

/-- Whether the field of a name has been read. -/
def Fields.filled : (fields : Fields) → String → fields.Slots → Bool
  | .nil, _, _ => false
  | .cons name _ _ rest, wanted, (slot, slots) =>
    if name = wanted then slot.isSome else rest.filled wanted slots

/-- What stands for a field that was left out of an object. -/
def Shape.ifAbsent : (shape : Shape) → Option shape.Value
  | .nullable _ => some none
  | _ => none

/-- The record, unless a required field is missing. -/
def Fields.collect : (fields : Fields) → fields.Slots → Except Mismatch fields.Values
  | .nil, _ => .ok ()
  | .cons name .required shape rest, (slot, slots) =>
    match slot.or shape.ifAbsent with
    | some x => (rest.collect slots).map fun xs => (x, xs)
    | none => .error (.missingField name)
  | .cons _ .optional _ rest, (slot, slots) => (rest.collect slots).map fun xs => (slot, xs)

-- ---------------------------------------------------------------------------
-- Decoding a value
-- ---------------------------------------------------------------------------

/-- Decodes the members of a table. -/
def decodeTable {α : Type} (decode : Json → Except Mismatch α) :
    List (String × Json) → Except Mismatch (List (String × α))
  | [] => .ok []
  | (name, value) :: rest => do
    let x ← decode value
    let xs ← decodeTable decode rest
    return insertMember name x xs

/-- Takes the members of an object one after another. -/
def takeMembers {σ : Type} (take : String → Json → σ → Except Mismatch σ) :
    σ → List (String × Json) → Except Mismatch σ
  | state, [] => .ok state
  | state, (name, value) :: rest =>
    take name value state >>= fun state => takeMembers take state rest

mutual

/-- Reads data off a JSON value. -/
def Shape.decode : (shape : Shape) → Json → Except Mismatch shape.Value
  | .text, j => match j with
    | .string s => .ok s
    | j => wrong j Shape.text.expected
  | .flag, j => match j with
    | .bool b => .ok b
    | j => wrong j Shape.flag.expected
  | .word32, j => match j with
    | .number n => word32OfNumber n
    | j => wrong j Shape.word32.expected
  | .word64, j => match j with
    | .number n => word64OfNumber n
    | j => wrong j Shape.word64.expected
  | .uuid, j => match j with
    | .string s => uuidOfText s
    | j => wrong j Shape.uuid.expected
  | .instant, j => match j with
    | .string s => instantOfText s
    | j => wrong j Shape.instant.expected
  | .json, j => .ok j
  | .list item, j => match j with
    | .array items => items.mapM fun j => item.decode j
    | j => wrong j (Shape.list item).expected
  | .table value, j => match j with
    | .object members => decodeTable (fun j => value.decode j) members
    | j => wrong j (Shape.table value).expected
  | .nullable inner, j => match j with
    | .null => .ok none
    | j => (inner.decode j).map some
  | .choice names, j => match j with
    | .string s => choiceOfText names s
    | .object [(name, value)] =>
      match choiceOfText names name, value with
      | .ok i, .null => .ok i
      | .ok _, value => wrong value "unit"
      | .error e, _ => .error e
    | .object _ => .error .severalKeys
    | j => wrong j (Shape.choice names).expected
  | .record name fields, j => match j with
    | .object members => do
      let slots ← takeMembers fields.decodeMember fields.emptySlots members
      fields.collect slots
    | .array items => do
      let xs ← fields.decodeList (fields.expectedLength name) 0 items
      if items.length ≤ fields.count then return xs
      else throw (.wrongLength items.length "fewer elements in array")
    | j => wrong j (Shape.record name fields).expected

/-- Reads one field off a member; members of other names are skipped. -/
def Fields.decodeMember : (fields : Fields) → String → Json → fields.Slots →
    Except Mismatch fields.Slots
  | .nil, _, _, slots => .ok slots
  | .cons name _ shape rest, wanted, value, (slot, slots) =>
    if name = wanted then (shape.decode value).map fun x => (some x, slots)
    else (rest.decodeMember wanted value slots).map fun slots => (slot, slots)

/-- Reads the fields off a list of values; the first of them has the given place in the record. -/
def Fields.decodeList (expected : String) : (fields : Fields) → (place : Nat) → List Json →
    Except Mismatch fields.Values
  | .nil, _, _ => .ok ()
  | .cons _ .required shape rest, place, items =>
    match items with
    | [] => .error (.wrongLength place expected)
    | item :: items => do
      let x ← shape.decode item
      let xs ← rest.decodeList expected (place + 1) items
      return (x, xs)
  | .cons _ .optional shape rest, place, items =>
    match items with
    | [] => (rest.decodeList expected (place + 1) []).map fun xs => (none, xs)
    | item :: items => do
      let x ← shape.decode item
      let xs ← rest.decodeList expected (place + 1) items
      return (some x, xs)

end

end Galley.Json
