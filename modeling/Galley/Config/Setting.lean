import Galley.Decimal.Extended
import Galley.Json.Value
import Galley.Text.Case
import Galley.Text.Digits
import Galley.Word

/-!
# Settings

A setting is a value from a file or from the environment, where everything is text. So scalars are
taken for one another: text for a number or a truth value where it can be read as one, a number for
a truth value or for text, and so on. `null`, lists and tables are taken for no scalar.
-/

namespace Galley.Config

/-- A value from a file or from the environment. -/
inductive Setting where
  | null
  | bool (value : Bool)
  | integer (value : Int)
  | real (value : Decimal.Extended)
  | string (value : String)
  | array (items : List Setting)
  | object (members : List (String × Setting))
  deriving Repr

namespace Setting

instance : Inhabited Setting := ⟨.null⟩

mutual

/-- A JSON value as a setting. Integers beyond 64 bits with a sign are binary numbers. -/
def ofJson : Json → Setting
  | .null => .null
  | .bool b => .bool b
  | .number (.integer n) =>
    if -(Word.values63 : Int) ≤ n ∧ n < Word.values63 then .integer n else .real (.ofInt n)
  | .number (.real x) => .real (.finite x)
  | .string s => .string s
  | .array items => .array (ofItems items)
  | .object members => .object (ofMembers members)

/-- The items of a JSON list as settings. -/
def ofItems : List Json → List Setting
  | [] => []
  | item :: items => ofJson item :: ofItems items

/-- The members of a JSON object as settings. -/
def ofMembers : List (String × Json) → List (String × Setting)
  | [] => []
  | (name, value) :: rest => (name, ofJson value) :: ofMembers rest

end

/-- The truth value that a word stands for. -/
def word? (s : String) : Option Bool :=
  let s := Text.lower s
  if s ∈ ["true", "on", "yes"] then some true
  else if s ∈ ["false", "off", "no"] then some false
  else none

/-- The setting as a natural number below a limit. -/
def nat? (limit : Nat) (s : Setting) : Option Nat :=
  let n := match s with
    | .bool b => some b.toNat
    | .integer n => if 0 ≤ n then some n.toNat else none
    | .real x => some x.toWord
    | .string s => match word? s with
      | some b => some b.toNat
      | none => Text.readNatural? s.toList
    | _ => none
  n.filter fun n => n < limit

/-- The setting as a truth value. -/
def flag? : Setting → Option Bool
  | .bool b => some b
  | .integer n => some (n != 0)
  | .real (.finite x) => some (x.rank != 0)
  | .real _ => some true
  | .string s => if s = "1" then some true else if s = "0" then some false else word? s
  | _ => none

/-- The setting as text. -/
def text? : Setting → Option String
  | .bool b => some (if b then "true" else "false")
  | .integer n => some (toString n)
  | .real x => some x.toText
  | .string s => some s
  | _ => none

/-- The setting as a binary number. -/
def real? : Setting → Option Decimal.Extended
  | .bool b => some (.ofInt b.toNat)
  | .integer n => some (.ofInt n)
  | .real x => some x
  | .string s =>
    match word? s with
    | some b => some (.ofInt b.toNat)
    | none => Decimal.Extended.read? s.toList
  | _ => none

end Setting

end Galley.Config
