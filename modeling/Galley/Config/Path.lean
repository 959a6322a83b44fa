import Galley.Config.Setting

/-!
# Paths to settings

A path such as `server.port` or `origins[0]` leads to a setting in nested tables and lists. Putting
a setting there makes the tables and lists on the way, in place of whatever else is there. A table
that is put is merged, member by member, into one that is there already. Tables are held under the
small letters of their keys; those within lists are left as they are.
-/

namespace Galley.Config

/-- One step of a path. -/
inductive Step where
  | key (name : String)
  | index (place : Int)
  deriving Repr, DecidableEq

/-- Whether a key can hold a character. -/
def isKeyChar (c : Char) : Bool := c.isAlphanum || c == '_' || c == '-' || c == ' '

/-- The index that a signed word can hold. -/
def indexOf? (negative : Bool) (n : Nat) : Option Int :=
  if negative then if n ≤ Word.values63 then some (-(n : Int)) else none
  else if n < Word.values63 then some n else none

/-- Reads the steps after the first. The fuel bounds the length of the text. -/
def readSteps : (fuel : Nat) → List Char → Option (List Step)
  | 0, _ => none
  | _ + 1, [] => some []
  | fuel + 1, '.' :: cs =>
    let name := cs.takeWhile isKeyChar
    if name.isEmpty then none
    else (readSteps fuel (cs.dropWhile isKeyChar)).map (.key (String.ofList name) :: ·)
  | fuel + 1, '[' :: cs =>
    let isBlank (c : Char) : Bool := c == ' ' || c == '\t'
    let (negative, cs) := match cs.dropWhile isBlank with
      | '-' :: cs => (true, cs)
      | cs => (false, cs)
    match Text.readDecimal? (cs.takeWhile Char.isDigit) >>= indexOf? negative,
        (cs.dropWhile Char.isDigit).dropWhile isBlank with
    | some i, ']' :: rest => (readSteps fuel rest).map (.index i :: ·)
    | _, _ => none
  | _ + 1, _ => none

/-- Reads a path; a text that is none is a single key. -/
def readPath (text : String) : List Step :=
  let cs := text.toList
  let name := cs.takeWhile isKeyChar
  let steps := if name.isEmpty then none else readSteps (cs.length + 1) (cs.dropWhile isKeyChar)
  match steps with
  | some steps => .key (String.ofList name) :: steps
  | none => [.key text]

/-- The members of a table; anything else has none. -/
def tableOf : Setting → List (String × Setting)
  | .object members => members
  | _ => []

/-- The items of a list; anything else has none. -/
def listOf : Setting → List Setting
  | .array items => items
  | _ => []

mutual

/-- Puts a setting under a name into a table. -/
def putKey (name : String) (root : Setting) : (value : Setting) → Setting
  | .object members =>
    let held := ((tableOf root).lookup (Text.lower name)).getD (.object [])
    .object (Json.insertMember (Text.lower name) (mergeInto held members) (tableOf root))
  | value => .object (Json.insertMember (Text.lower name) value (tableOf root))

/-- Puts members into a table. Without any, what is there stays. -/
def mergeInto (held : Setting) : (members : List (String × Setting)) → Setting
  | [] => held
  | (name, value) :: rest => mergeInto (putKey name held value) rest

end

/-- The place that an index means in a list; a negative one counts from the end. -/
def placeOf (length : Nat) (index : Int) : Nat :=
  if 0 ≤ index then index.toNat else length - index.natAbs

/-- Replaces an item of a list, which is filled up with `null` as far as needed. -/
def putItem (items : List Setting) (place : Nat) (value : Setting) : List Setting :=
  (items ++ List.replicate (place + 1 - items.length) Setting.null).set place value

/-- Puts a setting at a path. -/
def putAt (value : Setting) : (path : List Step) → (root : Setting) → Setting
  | [], _ => value
  | [.key name], root => putKey name root value
  | .key name :: rest, root =>
    let held := ((tableOf root).lookup (Text.lower name)).getD .null
    .object (Json.insertMember (Text.lower name) (putAt value rest held) (tableOf root))
  | .index i :: rest, root =>
    let items := listOf root
    let place := placeOf items.length i
    .array (putItem items place (putAt value rest (items.getD place .null)))

/-- Puts members into settings, each at the path that its name is. -/
def putAll (root : Setting) (members : List (String × Setting)) : Setting :=
  members.foldl (fun root (name, value) => putAt value (readPath name) root) root

end Galley.Config
