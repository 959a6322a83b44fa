import Galley.Client.Host.Name
import Galley.Word

/-!
# Hosts

The host of an address: a name, or a number of 32 or of 128 bits. A number of 32 bits is written in
up to four parts, of which the last fills all bits that are left; a part is decimal, octal behind a
zero, or hexadecimal behind `0x`. A name whose last label is such a part has to be a number. A
number of 128 bits is written in brackets, as groups of 16 bits in hexadecimal, with two colons for
one run of zeros; the last two groups can be written as a number of 32 bits.

Hosts of schemes that are not known here are not read as names or numbers of 32 bits.
-/

namespace Galley.Client

/-- A host. A number of 128 bits is in groups of 16. -/
inductive Host where
  | name (text : List Char)
  | number (bits : Nat)
  | groups (values : List Nat)
  deriving DecidableEq, Repr

namespace Host

/-- Why a text is no host. -/
inductive Fault where
  | noHost
  | badName
  | badNumber
  | badGroups
  | badCharacter
  deriving DecidableEq, Repr

/-- The wording of a fault. -/
def Fault.message : Fault → String
  | noHost => "empty host"
  | badName => "invalid international domain name"
  | badNumber => "invalid IPv4 address"
  | badGroups => "invalid IPv6 address"
  | badCharacter => "invalid domain character"

-- ---------------------------------------------------------------------------
-- Numbers
-- ---------------------------------------------------------------------------

/-- The number that digits of a base write. -/
def readDigits? (base : Nat) (cs : List Char) : Option Nat :=
  cs.foldlM
    (fun n c => ((Text.hexValue c).filter fun digit => digit < base).map fun digit =>
      base * n + digit)
    0

/-- A part of a number. -/
def readPart? : List Char → Option Nat
  | [] => none
  | '0' :: c :: cs => if c = 'x' ∨ c = 'X' then readDigits? 16 cs else readDigits? 8 (c :: cs)
  | cs => readDigits? 10 cs

/-- The labels of a name without an empty one at its end. -/
def innerLabels (cs : List Char) : List (List Char) :=
  let labels := labelsOf cs
  if labels.getLast? = some [] then labels.dropLast else labels

/-- Whether a name has to be a number. -/
def endsInNumber (cs : List Char) : Bool :=
  (innerLabels cs).getLast?.any fun label =>
    (!label.isEmpty && label.all Char.isDigit) || (readPart? label).isSome

/-- How many parts a number can have. -/
def partCount : Nat := 4

/-- How many values a part has that is not the last. -/
def partValues : Nat := 256

/-- Joins the parts of a number, most significant first: all but the last take a place each, and the
last takes all places that are left. -/
def joinParts? (places : Nat) : List Nat → Option Nat
  | [] => none
  | [last] => if last < Nat.pow partValues places then some last else none
  | part :: parts =>
    if part < partValues then
      (joinParts? (places - 1) parts).map (part * Nat.pow partValues (places - 1) + ·)
    else none

/-- The number of 32 bits that a name writes. -/
def readNumber? (cs : List Char) : Option Nat := do
  let parts ← (innerLabels cs).mapM readPart?
  if partCount < parts.length then none else joinParts? partCount parts

-- ---------------------------------------------------------------------------
-- Groups
-- ---------------------------------------------------------------------------

/-- How many groups a number of 128 bits has. -/
def groupCount : Nat := 8

/-- A group of up to four hexadecimal digits. -/
def readGroup? (cs : List Char) : Option Nat :=
  if cs.isEmpty || 4 < cs.length then none else readDigits? 16 cs

/-- A part of a number in the last two groups: decimal, below 256, and without a zero in front. -/
def readByte? (cs : List Char) : Option Nat :=
  if cs.head? = some '0' ∧ 1 < cs.length then none
  else (Text.readDecimal? cs).filter (· < partValues)

/-- The last groups: one in hexadecimal, or two as a number in four parts. -/
def readLastGroups? (cs : List Char) : Option (List Nat) :=
  if cs.contains '.' then do
    match ← (labelsOf cs).mapM readByte? with
    | [a, b, c, d] => some [partValues * a + b, partValues * c + d]
    | _ => none
  else (readGroup? cs).map ([·])

/-- Groups with colons between them, of which the last can be a number in four parts. -/
def readGroups? (canEndInNumber : Bool) (text : String) : Option (List Nat) := do
  let parts := (text.splitOn ":").map String.toList
  let first ← parts.dropLast.mapM readGroup?
  let last := parts.getLast?.getD []
  let last ← if canEndInNumber then readLastGroups? last else (readGroup? last).map ([·])
  return first ++ last

/-- Groups, or none in an empty text. -/
def readSomeGroups? (canEndInNumber : Bool) (text : String) : Option (List Nat) :=
  if text.isEmpty then some [] else readGroups? canEndInNumber text

/-- The groups of a number of 128 bits. -/
def readAllGroups? (cs : List Char) : Option (List Nat) :=
  match (String.ofList cs).splitOn "::" with
  | [text] => (readGroups? true text).filter fun values => values.length = groupCount
  | [left, right] => do
    let left ← readSomeGroups? false left
    let right ← readSomeGroups? true right
    let known := left.length + right.length
    if known < groupCount then
      some (left ++ List.replicate (groupCount - known) 0 ++ right)
    else none
  | _ => none

-- ---------------------------------------------------------------------------
-- Reading
-- ---------------------------------------------------------------------------

/-- Reads a host in brackets. -/
def readBracketed (cs : List Char) : Except Fault Host :=
  if cs.getLast? = some ']' then
    match readAllGroups? ((cs.drop 1).dropLast) with
    | some values => .ok (.groups values)
    | none => .error .badGroups
  else .error .badGroups

/-- Reads a host. -/
def read (cs : List Char) : Except Fault Host :=
  if cs.head? = some '[' then readBracketed cs
  else
    match Text.decode? (Text.percentBytes cs) >>= fun text => plainName? text.toList with
    | none => .error .badName
    | some [] => .error .noHost
    | some plain =>
      if endsInNumber plain then
        match readNumber? plain with
        | some bits => .ok (.number bits)
        | none => .error .badNumber
      else .ok (.name plain)

/-- The characters that cannot be in a host that is not read as a name. -/
def barred : List Char :=
  ['\x00', '\t', '\n', '\r', ' ', '#', '/', ':', '<', '>', '?', '@', '[', '\\', ']', '^', '|']

/-- Whether a character is left alone in places that are not read: it can be seen and is in ASCII,
or it is a blank. -/
def isVisibleAscii (c : Char) : Bool := 0x20 ≤ c.toNat && c.toNat < 0x7f

/-- Reads a host that is not read as a name; it can be empty. -/
def readUnknown (cs : List Char) : Except Fault Host :=
  if cs.head? = some '[' then readBracketed cs
  else if cs.any (· ∈ barred) then .error .badCharacter
  else .ok (.name (Text.percentEncoded isVisibleAscii cs))

-- ---------------------------------------------------------------------------
-- Writing
-- ---------------------------------------------------------------------------

/-- Where the first of the longest runs of zeros begins, and how long it is. -/
def zeroRun (values : List Nat) : Nat × Nat :=
  (List.range values.length).foldl
    (fun (start, length) i =>
      let here := ((values.drop i).takeWhile (· = 0)).length
      if length < here then (i, here) else (start, length))
    (0, 0)

/-- Groups with colons between them. -/
def groupsText (values : List Nat) : String :=
  String.intercalate ":" (values.map fun value => String.ofList (Nat.toDigits 16 value))

/-- A host in writing. -/
def toText : Host → String
  | name text => String.ofList text
  | number bits =>
    String.intercalate "."
      ([bits / 0x1000000, bits / 0x10000 % 0x100, bits / 0x100 % 0x100, bits % 0x100].map toString)
  | groups values =>
    let (start, length) := zeroRun values
    let text :=
      if length < 2 then groupsText values
      else groupsText (values.take start) ++ "::" ++ groupsText (values.drop (start + length))
    "[" ++ text ++ "]"

end Host

end Galley.Client
