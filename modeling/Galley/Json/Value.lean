import Galley.Decimal.Binary64

/-!
# JSON values

A JSON value as the library holds it. Integers are kept exactly, all other numbers as 64-bit binary
numbers. An object is a list of named members; a *canonical* value has them in strictly increasing
order of their names, so that two canonical objects with the same members are equal. Names are
compared character by character, which is also the order of their encoded bytes.
-/

namespace Galley

/-- A JSON number. -/
inductive Json.Number where
  | integer (value : Int)
  | real (value : Binary64)
  deriving Repr, DecidableEq

/-- A JSON value. -/
inductive Json where
  | null
  | bool (value : Bool)
  | number (value : Json.Number)
  | string (value : String)
  | array (items : List Json)
  | object (members : List (String × Json))
  deriving Repr

namespace Json

instance : Inhabited Json := ⟨.null⟩

/-- The integer as a JSON value. -/
def int (value : Int) : Json := .number (.integer value)

/-- The natural number as a JSON value. -/
def nat (value : Nat) : Json := .number (.integer value)

/-- The value, or `null` when there is none. -/
def orNull : Option Json → Json
  | some value => value
  | none => .null

/-- Adds a member to a list of members in increasing order; an earlier value of the same name is
replaced. -/
def insertMember {α : Type} (name : String) (value : α) : List (String × α) → List (String × α)
  | [] => [(name, value)]
  | (other, held) :: rest =>
    if name < other then (name, value) :: (other, held) :: rest
    else if name = other then (name, value) :: rest
    else (other, held) :: insertMember name value rest

/-- The value of a member. -/
def member? (name : String) : Json → Option Json
  | .object members => members.lookup name
  | _ => none

mutual

/-- The value with the members of every object in increasing order; of repeated members the last
stays. -/
def canonical : Json → Json
  | .array items => .array (canonicalItems items)
  | .object members => .object (canonicalMembers [] members)
  | value => value

/-- The canonical forms of a list of values. -/
def canonicalItems : List Json → List Json
  | [] => []
  | item :: items => canonical item :: canonicalItems items

/-- Adds canonical members to those already in order. -/
def canonicalMembers (sorted : List (String × Json)) : List (String × Json) → List (String × Json)
  | [] => sorted
  | (name, value) :: rest => canonicalMembers (insertMember name (canonical value) sorted) rest

end

mutual

/-- Whether two values are equal, where numbers are equal when they denote the same number of the
same kind. -/
def same : Json → Json → Bool
  | .null, .null => true
  | .bool a, .bool b => a == b
  | .number (.integer a), .number (.integer b) => a == b
  | .number (.real a), .number (.real b) => a.same b
  | .string a, .string b => a == b
  | .array xs, .array ys => sameItems xs ys
  | .object xs, .object ys => sameMembers xs ys
  | _, _ => false

/-- Whether two lists of values are equal item by item. -/
def sameItems : List Json → List Json → Bool
  | [], [] => true
  | x :: xs, y :: ys => same x y && sameItems xs ys
  | _, _ => false

/-- Whether two lists of members are equal member by member. -/
def sameMembers : List (String × Json) → List (String × Json) → Bool
  | [], [] => true
  | (a, x) :: xs, (b, y) :: ys => a == b && same x y && sameMembers xs ys
  | _, _ => false

end

end Json

end Galley
