import Galley.Text.Bytes
import Galley.Text.Digits
import Galley.Word

/-!
# Identifiers

A universally unique identifier is a number of 128 bits. It is written as 32 hexadecimal digits in
small letters, in groups of 8, 4, 4, 4 and 12 parted by hyphens. It is also read without hyphens, in
braces, behind `urn:uuid:`, and in capital letters.
-/

namespace Galley

/-- A universally unique identifier. -/
structure Uuid where
  value : Fin Word.values128
  deriving DecidableEq

namespace Uuid

instance : Inhabited Uuid := ⟨⟨0⟩⟩

instance : Repr Uuid := ⟨fun u _ => repr u.value⟩

/-- The identifier with the given number, of which the lowest 128 bits are taken. -/
def ofNat (n : Nat) : Uuid := ⟨Fin.ofNat Word.values128 n⟩

/-- Compares two identifiers by their numbers, which is also the order of their written forms. -/
def compare (a b : Uuid) : Ordering := Ord.compare a.value.val b.value.val

-- ---------------------------------------------------------------------------
-- Printing
-- ---------------------------------------------------------------------------

/-- The last `count` hexadecimal digits of a number. -/
def hexDigits : (count n : Nat) → List Char
  | 0, _ => []
  | count + 1, n => hexDigits count (n / 16) ++ [Nat.digitChar (n % 16)]

/-- The written form of an identifier, as characters. -/
def print (u : Uuid) : List Char :=
  let digits := hexDigits 32 u.value
  digits.take 8 ++ '-' :: (digits.drop 8).take 4 ++ '-' :: (digits.drop 12).take 4
    ++ '-' :: (digits.drop 16).take 4 ++ '-' :: digits.drop 20

/-- The written form of an identifier. -/
def toText (u : Uuid) : String := String.ofList u.print

instance : ToString Uuid := ⟨toText⟩

-- ---------------------------------------------------------------------------
-- Reading
-- ---------------------------------------------------------------------------

/-- Why a text is no identifier. -/
inductive ReadError where
  | character (found : Char) (index : Nat)
  | length (found : Nat)
  | groupCount (found : Nat)
  | groupLength (group found : Nat)
  deriving Repr, DecidableEq

/-- The lengths of the groups of digits. -/
def groupLengths : List Nat := [8, 4, 4, 4, 12]

/-- The wording of an error. -/
def ReadError.message : ReadError → String
  | character found index =>
    "invalid character: found `" ++ found.toString ++ "` at " ++ toString index
  | length found => "invalid length: found " ++ toString found
  | groupCount found => "invalid group count: expected 5, found " ++ toString found
  | groupLength group found =>
    "invalid group length in group " ++ toString group ++ ": expected "
      ++ toString (groupLengths.getD group 0) ++ ", found " ++ toString found

/-- The number that hexadecimal digits write, most significant first, after `n`. -/
def readDigits (n : Nat) : List Char → Option Nat
  | [] => some n
  | c :: cs => (Text.hexValue c).bind fun d => readDigits (16 * n + d) cs

/-- The mark of an identifier that is written as a resource name, in small letters. -/
def urnMark : List Char := "urn:uuid:".toList

/-- The length in bytes of the longest written form. -/
def longest : Nat := 45

/-- The groups of digits as they stand in a text: by themselves, in braces, or behind the mark of a
resource name. Only the length tells which; a text of another length holds none. -/
def unwrap? (cs : List Char) : Option (List Char) :=
  match Text.byteLength cs with
  | 36 => some cs
  | 38 => if cs.head? = some '\x7b' ∧ cs.getLast? = some '\x7d' then some cs.tail.dropLast else none
  | 45 =>
    let mark := cs.take urnMark.length
    if mark.map Char.toLower = urnMark then some (cs.drop urnMark.length) else none
  | _ => none

/-- The first character that is neither a hexadecimal digit nor a hyphen, and its place in bytes. -/
def firstBad (index : Nat) : List Char → Option (Char × Nat)
  | [] => none
  | c :: cs =>
    if c = '-' ∨ (Text.hexValue c).isSome then firstBad (index + c.utf8Size) cs else some (c, index)

/-- The stretches between the hyphens of a text. -/
def groups : List Char → List (List Char)
  | [] => [[]]
  | c :: cs =>
    if c = '-' then [] :: groups cs
    else match groups cs with
      | [] => [[c]]
      | g :: gs => (c :: g) :: gs

/-- The first group of a wrong length, counted from zero, and its length. -/
def firstWrongGroup (lengths found : List Nat) : Option (Nat × Nat) :=
  ((lengths.zip found).zipIdx.find? fun ((want, have_), _) => want != have_).map
    fun ((_, have_), i) => (i, have_)

/-- Why digits and hyphens make no identifier; `grouped` says that there should be hyphens. -/
def diagnoseGroups (grouped : Bool) (cs : List Char) : ReadError :=
  match firstBad 0 cs with
  | some (c, index) => .character c index
  | none =>
    let lengths := (groups cs).map List.length
    if lengths.length = 1 ∧ !grouped then .length cs.length
    else if lengths.length ≠ 5 then .groupCount lengths.length
    else match firstWrongGroup groupLengths lengths with
      | some (group, found) => .groupLength group found
      | none => .length cs.length

/-- Why the text, which is no identifier, is none. -/
def diagnose (cs : List Char) : ReadError :=
  if longest < Text.byteLength cs then .length (Text.byteLength cs)
  else match unwrap? cs with
    | some inside => diagnoseGroups true inside
    | none => diagnoseGroups false cs

/-- The number of a text with five groups of the right lengths. -/
def readGroups (cs : List Char) : Option Nat :=
  let gs := groups cs
  if gs.map List.length = groupLengths then readDigits 0 gs.flatten else none

/-- Reads an identifier. -/
def read (text : String) : Except ReadError Uuid :=
  let cs := text.toList
  let number := match unwrap? cs with
    | some inside => readGroups inside
    | none => if cs.length = 32 ∧ '-' ∉ cs then readDigits 0 cs else none
  match number with
  | some n => .ok (ofNat n)
  | none => .error (diagnose cs)

end Uuid

end Galley
