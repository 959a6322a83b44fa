import Galley.Json.Value
import Galley.Decimal.Shortest

/-!
# Printing JSON

Two written forms of a JSON value: compact, without any blank, and indented by two blanks for each
level. Members are written in the order in which the value holds them.

Integers are written in decimal. Other numbers are written with the fewest digits that read back,
positionally from `0.00001` up to below `10 ^ 16` and with an exponent beyond, and always so that
they read back as no integer.
-/

namespace Galley.Json

-- ---------------------------------------------------------------------------
-- Numbers
-- ---------------------------------------------------------------------------

/-- The decimal exponents of the leading digit for which a number is written positionally. -/
def positional (exponent : Int) : Bool := -5 ≤ exponent && exponent ≤ 15

/-- Writes digits, scaled so that the first one stands for `10 ^ exponent`. -/
def printScaled (digits : List Char) (exponent : Int) : List Char :=
  if positional exponent then
    if exponent < 0 then '0' :: '.' :: List.replicate (-exponent - 1).toNat '0' ++ digits
    else
      let whole := exponent.toNat + 1
      if digits.length ≤ whole then
        digits ++ List.replicate (whole - digits.length) '0' ++ ['.', '0']
      else digits.take whole ++ '.' :: digits.drop whole
  else
    let fraction := if digits.length ≤ 1 then [] else '.' :: digits.drop 1
    let sign := if exponent < 0 then '-' else '+'
    digits.take 1 ++ fraction ++ 'e' :: sign :: Nat.toDigits 10 exponent.natAbs

/-- The written form of a binary number. -/
def printReal (x : Binary64) : List Char :=
  let body :=
    if x.rank = 0 then ['0', '.', '0']
    else
      let d := Decimal.shortest x
      let digits := Nat.toDigits 10 d.digits
      printScaled digits (d.exponent + (digits.length - 1 : Nat))
  if x.negative then '-' :: body else body

/-- The written form of an integer. -/
def printInteger (n : Int) : List Char :=
  if n < 0 then '-' :: Nat.toDigits 10 n.natAbs else Nat.toDigits 10 n.natAbs

/-- The written form of a number. -/
def printNumber : Number → List Char
  | .integer n => printInteger n
  | .real x => printReal x

-- ---------------------------------------------------------------------------
-- Strings
-- ---------------------------------------------------------------------------

/-- A hexadecimal digit, in lower case. -/
def hexDigit (n : Nat) : Char := Nat.digitChar n

/-- The written form of a character inside a string. -/
def printChar (c : Char) : List Char :=
  if c = '"' then ['\\', '"']
  else if c = '\\' then ['\\', '\\']
  else if c = '\n' then ['\\', 'n']
  else if c = '\r' then ['\\', 'r']
  else if c = '\t' then ['\\', 't']
  else if c = '\x08' then ['\\', 'b']
  else if c = '\x0c' then ['\\', 'f']
  else if c.toNat < 0x20 then
    ['\\', 'u', '0', '0', hexDigit (c.toNat / 16), hexDigit (c.toNat % 16)]
  else [c]

/-- The written form of a string. -/
def printString (s : String) : List Char := '"' :: s.toList.flatMap printChar ++ ['"']

-- ---------------------------------------------------------------------------
-- Values
-- ---------------------------------------------------------------------------

/-- The written form of `null`, `true` and `false`. -/
def printBool (b : Bool) : List Char :=
  if b then ['t', 'r', 'u', 'e'] else ['f', 'a', 'l', 's', 'e']

mutual

/-- The compact form of a value. -/
def compact : Json → List Char
  | .null => ['n', 'u', 'l', 'l']
  | .bool b => printBool b
  | .number n => printNumber n
  | .string s => printString s
  | .array items => '[' :: compactItems items ++ [']']
  | .object members => '{' :: compactMembers members ++ ['}']

/-- The compact form of items, parted by commas. -/
def compactItems : List Json → List Char
  | [] => []
  | [item] => compact item
  | item :: items => compact item ++ ',' :: compactItems items

/-- The compact form of members, parted by commas. -/
def compactMembers : List (String × Json) → List Char
  | [] => []
  | [(name, value)] => printString name ++ ':' :: compact value
  | (name, value) :: rest => printString name ++ ':' :: compact value ++ ',' :: compactMembers rest

end

/-- A newline and the indentation of a level. -/
def newline (level : Nat) : List Char := '\n' :: List.replicate (2 * level) ' '

mutual

/-- The indented form of a value that stands on the given level. -/
def indented (level : Nat) : Json → List Char
  | .null => ['n', 'u', 'l', 'l']
  | .bool b => printBool b
  | .number n => printNumber n
  | .string s => printString s
  | .array [] => ['[', ']']
  | .array (item :: items) =>
    '[' :: indentedItems (level + 1) (item :: items) ++ newline level ++ [']']
  | .object [] => ['{', '}']
  | .object (member :: members) =>
    '{' :: indentedMembers (level + 1) (member :: members) ++ newline level ++ ['}']

/-- The indented form of items, each on a line of its own. -/
def indentedItems (level : Nat) : List Json → List Char
  | [] => []
  | [item] => newline level ++ indented level item
  | item :: items => newline level ++ indented level item ++ ',' :: indentedItems level items

/-- The indented form of members, each on a line of its own. -/
def indentedMembers (level : Nat) : List (String × Json) → List Char
  | [] => []
  | [(name, value)] => newline level ++ printString name ++ ':' :: ' ' :: indented level value
  | (name, value) :: rest =>
    newline level ++ printString name ++ ':' :: ' ' :: indented level value
      ++ ',' :: indentedMembers level rest

end

/-- The compact form of a value, as a string. -/
def toCompact (value : Json) : String := String.ofList value.compact

/-- The indented form of a value, as a string. -/
def toIndented (value : Json) : String := String.ofList (value.indented 0)

end Galley.Json
