import Galley.Json.Fault
import Galley.Text.Bytes
import Galley.Text.Digits
import Galley.Word

/-!
# Reading JSON

The reader works on a list of characters. A step gives what it read and the rest of the text, or a
fault. It reads numbers, strings, lists and objects, and skips values nobody asked for.

* Integers from `-2 ^ 63` up to below `2 ^ 64` are exact. All other numbers become binary ones: the
  leading digits that fit in 64 bits are rounded and then scaled by a power of ten, each step
  rounded on its own.
* Lists and objects may be nested `nestingLimit` deep. A skipped value has no such limit, and in it
  neither the size of numbers nor the pairing of surrogates is checked.

Every step takes something off the text, so no loop makes more turns than the text has characters.
That number, and one, is the fuel that `readText` gives to the whole reading.
-/

namespace Galley.Json

/-- A reading step gives a value and the rest of the text, or a fault. -/
abbrev Reader (α : Type) := List Char → Except Fault (α × List Char)

/-- How deep lists and objects may be nested. -/
def nestingLimit : Nat := 127

/-- The blanks between the tokens of a text. -/
def isBlank (c : Char) : Bool := c == ' ' || c == '\n' || c == '\t' || c == '\r'

/-- The text after leading blanks. -/
def skipBlank (cs : List Char) : List Char := cs.dropWhile isBlank

-- ---------------------------------------------------------------------------
-- Words
-- ---------------------------------------------------------------------------

/-- Reads the rest of a fixed word. -/
def readWord : (word : List Char) → (cs : List Char) → Except Fault (List Char)
  | [], cs => .ok cs
  | _ :: _, [] => .error (.here .endInValue [])
  | w :: word, c :: cs =>
    if w = c then readWord word cs else .error (.peeked .expectedWord (c :: cs))

-- ---------------------------------------------------------------------------
-- Numbers
-- ---------------------------------------------------------------------------

/-- Appends digits to a number as long as it stays below `2 ^ 64`: the number, how many digits it
took, and the digits left. -/
def absorb (value : Nat) : List Char → Nat × Nat × List Char
  | [] => (value, 0, [])
  | c :: cs =>
    let next := 10 * value + Text.digitValue c
    if next < Word.values64 then
      let (value, taken, rest) := absorb next cs
      (value, taken + 1, rest)
    else (value, 0, c :: cs)

/-- The largest power of ten that one rounded step scales by. -/
def maxScale : Nat := 308

/-- A power of ten as a binary number. -/
def powerOfTen (n : Nat) : Binary64 := (Binary64.ofRatio false (Nat.pow 10 n) 1).getD ⟨false, 0⟩

/-- Scales down by a power of ten, in rounded steps of at most `10 ^ maxScale`. Three steps take
every number below `2 ^ 64` to zero. -/
def scaleDown : (steps : Nat) → Binary64 → (exponent : Nat) → Binary64
  | 0, x, _ => ⟨x.negative, 0⟩
  | steps + 1, x, exponent =>
    if exponent ≤ maxScale then (x.divMagnitude (powerOfTen exponent)).getD x
    else if x.rank = 0 then x
    else scaleDown steps ((x.divMagnitude (powerOfTen maxScale)).getD x) (exponent - maxScale)

/-- A significand scaled by a power of ten, unless that is too large. -/
def scaled (negative : Bool) (significand : Nat) (exponent : Int) : Option Binary64 :=
  let x := (Binary64.ofRatio negative significand 1).getD ⟨negative, 0⟩
  if 0 ≤ exponent then
    if exponent.toNat ≤ maxScale then x.mulMagnitude (powerOfTen exponent.toNat)
    else if x.rank = 0 then some x else none
  else some (scaleDown 4 x (-exponent).toNat)

/-- The number as a step's result. -/
def finishReal (negative : Bool) (significand : Nat) (exponent : Int) (rest : List Char) :
    Except Fault (Number × List Char) :=
  match scaled negative significand exponent with
  | some x => .ok (.real x, rest)
  | none => .error (.here .numberTooLarge rest)

/-- The value of exponent digits, unless it exceeds 31 bits; then the text after the digit that
made it too large. -/
def exponentValue (value : Nat) : List Char → Except (List Char) Nat
  | [] => .ok value
  | c :: cs =>
    let next := 10 * value + Text.digitValue c
    if next < Word.values31 then exponentValue next cs else .error cs

/-- Reads an exponent after its mark. -/
def readExponent (negative : Bool) (significand : Nat) (exponent : Int) (cs : List Char) :
    Except Fault (Number × List Char) :=
  let (down, cs) := match cs with
    | '+' :: cs => (false, cs)
    | '-' :: cs => (true, cs)
    | cs => (false, cs)
  match cs with
  | [] => .error (.here .endInValue [])
  | c :: rest =>
    if c.isDigit then
      let digits := c :: rest.takeWhile Char.isDigit
      let rest := rest.dropWhile Char.isDigit
      match exponentValue 0 digits with
      | .ok e => finishReal negative significand (if down then exponent - e else exponent + e) rest
      | .error left =>
        if significand ≠ 0 ∧ !down then .error (.here .numberTooLarge (left ++ rest))
        else .ok (.real ⟨negative, 0⟩, rest)
    else .error (.peeked .malformedNumber cs)

/-- Reads the fraction after its point; the digits before it are scaled by `10 ^ exponent`. -/
def readFraction (negative : Bool) (significand : Nat) (exponent : Int) (cs : List Char) :
    Except Fault (Number × List Char) :=
  let digits := cs.takeWhile Char.isDigit
  let rest := cs.dropWhile Char.isDigit
  if digits = [] then
    if rest = [] then .error (.here .endInValue []) else .error (.peeked .malformedNumber rest)
  else
    let (significand, taken, _) := absorb significand digits
    let exponent := exponent - taken
    match rest with
    | 'e' :: rest => readExponent negative significand exponent rest
    | 'E' :: rest => readExponent negative significand exponent rest
    | rest => finishReal negative significand exponent rest

/-- Reads a number after its sign. -/
def readNumber (negative : Bool) (cs : List Char) : Except Fault (Number × List Char) :=
  match cs with
  | [] => .error (.here .endInValue [])
  | c :: rest =>
    if c.isDigit then
      if c = '0' ∧ (rest.head?.any Char.isDigit) then .error (.peeked .malformedNumber rest)
      else
        let digits := cs.takeWhile Char.isDigit
        let rest := cs.dropWhile Char.isDigit
        let (significand, _, left) := absorb 0 digits
        match rest with
        | '.' :: rest => readFraction negative significand left.length rest
        | 'e' :: rest => readExponent negative significand left.length rest
        | 'E' :: rest => readExponent negative significand left.length rest
        | rest =>
          if left ≠ [] then finishReal negative significand left.length rest
          else if negative then
            if significand = 0 ∨ Word.values63 < significand then
              finishReal true significand 0 rest
            else .ok (.integer (-(significand : Int)), rest)
          else .ok (.integer significand, rest)
    else .error (.peeked .malformedNumber cs)

-- ---------------------------------------------------------------------------
-- Strings
-- ---------------------------------------------------------------------------

/-- Reads four hexadecimal digits. -/
def readHex (cs : List Char) : Except Fault (Nat × List Char) :=
  match cs with
  | a :: b :: c :: d :: rest =>
    match Text.hexValue a, Text.hexValue b, Text.hexValue c, Text.hexValue d with
    | some a, some b, some c, some d => .ok (((a * 16 + b) * 16 + c) * 16 + d, rest)
    | _, _, _, _ => .error ⟨.unknownEscape, cs, 4, []⟩
  | _ =>
    if 4 ≤ Text.byteLength cs then .error ⟨.unknownEscape, cs, 4, []⟩
    else .error (.here .endInString [])

/-- Reads the digits of a `\u` escape, and a second escape if the first is half of a pair. -/
def readUnicode (cs : List Char) : Except Fault (Char × List Char) :=
  match readHex cs with
  | .error fault => .error fault
  | .ok (n, rest) =>
    if 0xDC00 ≤ n ∧ n ≤ 0xDFFF then .error (.here .unpairedSurrogate rest)
    else if n < 0xD800 ∨ 0xDBFF < n then .ok (Char.ofNat n, rest)
    else match rest with
      | [] => .error (.here .endInString [])
      | '\\' :: [] => .error (.here .endInString [])
      | '\\' :: 'u' :: rest =>
        match readHex rest with
        | .error fault => .error fault
        | .ok (m, rest) =>
          if m < 0xDC00 ∨ 0xDFFF < m then .error (.here .unpairedSurrogate rest)
          else .ok (Char.ofNat ((n - 0xD800) * 0x400 + (m - 0xDC00) + 0x10000), rest)
      | '\\' :: rest => .error (.peeked .endOfEscape rest)
      | rest => .error (.peeked .endOfEscape rest)

/-- The character that a one-letter escape stands for. -/
def simpleEscape (c : Char) : Option Char :=
  match c with
  | '"' => some '"'
  | '\\' => some '\\'
  | '/' => some '/'
  | 'b' => some '\x08'
  | 'f' => some '\x0c'
  | 'n' => some '\n'
  | 'r' => some '\r'
  | 't' => some '\t'
  | _ => none

/-- Reads the characters of a string after its opening quote, onto those read so far, of which the
last is the first in the list. -/
def readChars : (fuel : Nat) → (done : List Char) → Reader (List Char)
  | 0, _, cs => .error (.here .endInString cs)
  | _ + 1, _, [] => .error (.here .endInString [])
  | fuel + 1, done, c :: cs =>
    if c = '"' then .ok (done.reverse, cs)
    else if c = '\\' then
      match cs with
      | [] => .error (.here .endInString [])
      | 'u' :: cs => do
        let (x, cs) ← readUnicode cs
        readChars fuel (x :: done) cs
      | e :: cs =>
        match simpleEscape e with
        | some x => readChars fuel (x :: done) cs
        | none => .error (.peeked .unknownEscape (e :: cs))
    else if c.toNat < 0x20 then .error (.peeked .controlCharacter (c :: cs))
    else readChars fuel (c :: done) cs

/-- Reads a string after its opening quote. -/
def readString (fuel : Nat) (cs : List Char) : Except Fault (String × List Char) := do
  let (xs, rest) ← readChars fuel [] cs
  return (String.ofList xs, rest)

-- ---------------------------------------------------------------------------
-- Lists and objects
-- ---------------------------------------------------------------------------

/-- Looks for the next item of a list: the text at the item, or at the closing bracket. -/
def nextItem (first : Bool) (cs : List Char) : Except Fault (Bool × List Char) :=
  match skipBlank cs with
  | [] => .error (.here .endInList [])
  | ']' :: rest => .ok (false, ']' :: rest)
  | c :: rest =>
    if first then .ok (true, c :: rest)
    else if c = ',' then
      match skipBlank rest with
      | [] => .error (.here .endInValue [])
      | ']' :: rest => .error (.peeked .trailingComma (']' :: rest))
      | rest => .ok (true, rest)
    else .error (.peeked .expectedItemEnd (c :: rest))

/-- Looks for the next member of an object and reads its name; without one, the text stands at the
closing brace. -/
def nextName (fuel : Nat) (first : Bool) (cs : List Char) :
    Except Fault (Option String × List Char) :=
  match skipBlank cs with
  | [] => .error (.here .endInObject [])
  | '}' :: rest => .ok (none, '}' :: rest)
  | c :: rest =>
    if first then
      if c = '"' then do
        let (name, rest) ← readString fuel rest
        return (some name, rest)
      else .error (.peeked .keyNoString (c :: rest))
    else if c = ',' then
      match skipBlank rest with
      | [] => .error (.here .endInValue [])
      | '"' :: rest => do
        let (name, rest) ← readString fuel rest
        return (some name, rest)
      | '}' :: rest => .error (.peeked .trailingComma ('}' :: rest))
      | rest => .error (.peeked .keyNoString rest)
    else .error (.peeked .expectedMemberEnd (c :: rest))

/-- Passes over the colon after a name. -/
def readColon (cs : List Char) : Except Fault (List Char) :=
  match skipBlank cs with
  | [] => .error (.here .endInObject [])
  | ':' :: rest => .ok rest
  | rest => .error (.peeked .expectedColon rest)

/-- Ends a list whose wanted items have been read. -/
def closeList (cs : List Char) : Except Fault (List Char) :=
  match skipBlank cs with
  | [] => .error (.here .endInList [])
  | ']' :: rest => .ok rest
  | ',' :: rest =>
    match skipBlank rest with
    | ']' :: rest => .error (.peeked .trailingComma (']' :: rest))
    | rest => .error (.peeked .trailingText rest)
  | rest => .error (.peeked .trailingText rest)

/-- Where an object ends that is given up in the middle: after its closing brace if that is next,
else before what is next. -/
def abandonObject (cs : List Char) : List Char :=
  match skipBlank cs with
  | '}' :: rest => rest
  | rest => rest

/-- Reads the items of a list after its opening bracket, each by `item`;
`position` items have been read. -/
def readItems {α : Type} (item : Reader α) : (fuel position : Nat) → Reader (List α)
  | 0, _, cs => .error (.here .endInList cs)
  | fuel + 1, position, cs =>
    match nextItem (position == 0) cs with
    | .error fault => .error (fault.under (.index position))
    | .ok (false, cs) => .ok ([], cs.drop 1)
    | .ok (true, cs) =>
      match item cs with
      | .error fault => .error (fault.under (.index position))
      | .ok (x, cs) => do
        let (xs, cs) ← readItems item fuel (position + 1) cs
        return (x :: xs, cs)

/-- Reads the members of an object after its opening brace. For each name `member` reads on after
it and updates the state. -/
def readMembers {σ : Type} (member : String → σ → Reader σ) :
    (fuel : Nat) → (first : Bool) → σ → Reader σ
  | 0, _, _, cs => .error (.here .endInObject cs)
  | fuel + 1, first, state, cs =>
    match nextName fuel first cs with
    | .error fault => .error fault
    | .ok (none, cs) => .ok (state, cs.drop 1)
    | .ok (some name, cs) => do
      let (state, cs) ← member name state cs
      readMembers member fuel false state cs

/-- Reads the value after a name, colon first; faults are placed under the name. -/
def underName {α : Type} (name : String) (value : Reader α) : Reader α := fun cs =>
  match readColon cs >>= value with
  | .error fault => .error (fault.under (.key name))
  | .ok result => .ok result

-- ---------------------------------------------------------------------------
-- Values
-- ---------------------------------------------------------------------------

/-- Reads a value that is neither list nor object, of which the first character is given. -/
def readScalar (fuel : Nat) (c : Char) (rest : List Char) : Except Fault (Json × List Char) :=
  match c with
  | 'n' => (readWord ['u', 'l', 'l'] rest).map fun rest => (.null, rest)
  | 't' => (readWord ['r', 'u', 'e'] rest).map fun rest => (.bool true, rest)
  | 'f' => (readWord ['a', 'l', 's', 'e'] rest).map fun rest => (.bool false, rest)
  | '"' => (readString fuel rest).map fun (s, rest) => (.string s, rest)
  | '-' => (readNumber true rest).map fun (n, rest) => (.number n, rest)
  | c =>
    if c.isDigit then (readNumber false (c :: rest)).map fun (n, rest) => (.number n, rest)
    else .error (.peeked .expectedValue (c :: rest))

/-- Reads any value. `levels` more levels of lists and objects may be opened. -/
def readValue (fuel : Nat) : (levels : Nat) → Reader Json
  | levels, cs =>
    match skipBlank cs with
    | [] => .error (.here .endInValue [])
    | c :: rest =>
      if c = '[' then
        match levels with
        | 0 => .error (.peeked .nestedTooDeep (c :: rest))
        | levels + 1 => do
          let (items, rest) ← readItems (readValue fuel levels) fuel 0 rest
          return (.array items, rest)
      else if c = '{' then
        match levels with
        | 0 => .error (.peeked .nestedTooDeep (c :: rest))
        | levels + 1 => do
          let member (name : String) (held : List (String × Json)) :
              Reader (List (String × Json)) :=
            fun cs => do
              let (value, cs) ← underName name (readValue fuel levels) cs
              return (insertMember name value held, cs)
          let (members, rest) ← readMembers member fuel true [] rest
          return (.object members, rest)
      else readScalar fuel c rest

/-- Checks that nothing but blanks follows a value. -/
def readEnd (cs : List Char) : Except Fault Unit :=
  match skipBlank cs with
  | [] => .ok ()
  | rest => .error (.peeked .trailingText rest)

/-- Reads a text that is one value. -/
def readText {α : Type} (value : (fuel : Nat) → Reader α) (text : List Char) : Except Fault α := do
  let (x, rest) ← value (text.length + 1) text
  readEnd rest
  return x

/-- Reads a text as JSON. -/
def parse (text : String) : Except Fault Json := 
  readText (fun fuel => readValue fuel nestingLimit) text.toList

-- ---------------------------------------------------------------------------
-- Skipped values
-- ---------------------------------------------------------------------------

/-- Skips a string after its opening quote. -/
def skipString : (fuel : Nat) → List Char → Except Fault (List Char)
  | 0, cs => .error (.here .endInString cs)
  | _ + 1, [] => .error (.here .endInString [])
  | fuel + 1, c :: cs =>
    if c = '"' then .ok cs
    else if c = '\\' then
      match cs with
      | [] => .error (.here .endInString [])
      | 'u' :: cs =>
        match readHex cs with
        | .error fault => .error fault
        | .ok (_, cs) => skipString fuel cs
      | e :: cs =>
        if (simpleEscape e).isSome then skipString fuel cs
        else .error (.peeked .unknownEscape (e :: cs))
    else if c.toNat < 0x20 then .error (.peeked .controlCharacter (c :: cs))
    else skipString fuel cs

/-- Skips an exponent after its mark. -/
def skipExponent (cs : List Char) : Except Fault (List Char) :=
  let cs := match cs with
    | '+' :: cs => cs
    | '-' :: cs => cs
    | cs => cs
  match cs with
  | [] => .error (.here .malformedNumber [])
  | c :: rest =>
    if c.isDigit then .ok (rest.dropWhile Char.isDigit)
    else .error (.peeked .malformedNumber (c :: rest))

/-- Skips a number after its sign. -/
def skipNumber (cs : List Char) : Except Fault (List Char) :=
  match cs with
  | [] => .error (.here .malformedNumber [])
  | c :: rest =>
    if c.isDigit then
      if c = '0' ∧ (rest.head?.any Char.isDigit) then .error (.peeked .malformedNumber rest)
      else match rest.dropWhile Char.isDigit with
        | '.' :: rest =>
          match rest with
          | [] => .error (.here .malformedNumber [])
          | d :: _ =>
            if d.isDigit then
              match rest.dropWhile Char.isDigit with
              | 'e' :: rest => skipExponent rest
              | 'E' :: rest => skipExponent rest
              | rest => .ok rest
            else .error (.peeked .malformedNumber rest)
        | 'e' :: rest => skipExponent rest
        | 'E' :: rest => skipExponent rest
        | rest => .ok rest
    else .error (.peeked .malformedNumber (c :: rest))

/-- What encloses a skipped value. -/
inductive Frame where
  | list
  | object
  deriving Repr, DecidableEq

/-- The skipping of a value: at a value, after one inside the given frames, or in a frame that has
just been opened. -/
inductive Skipping where
  | value
  | afterValue
  | opened

/-- Skips a member's name and colon. -/
def skipName (length : Nat) (cs : List Char) : Except Fault (List Char) :=
  match skipBlank cs with
  | [] => .error (.here .endInObject [])
  | '"' :: rest => do
    let rest ← skipString length rest
    readColon rest
  | rest => .error (.peeked .keyNoString rest)

/-- Skips on until all frames are closed. The fuel bounds the number of tokens, `length` that of the
characters. -/
def skipFrames (length : Nat) :
    (fuel : Nat) → Skipping → List Frame → List Char → Except Fault (List Char)
  | 0, _, _, cs => .error (.here .endInValue cs)
  | _ + 1, .afterValue, [], cs => .ok cs
  | _ + 1, .opened, [], cs => .ok cs
  | fuel + 1, .value, frames, cs =>
    match skipBlank cs with
    | [] => .error (.here .endInValue [])
    | '[' :: rest => skipFrames length fuel .opened (.list :: frames) rest
    | '{' :: rest => skipFrames length fuel .opened (.object :: frames) rest
    | '"' :: rest => do skipFrames length fuel .afterValue frames (← skipString length rest)
    | '-' :: rest => do skipFrames length fuel .afterValue frames (← skipNumber rest)
    | 'n' :: rest => do skipFrames length fuel .afterValue frames (← readWord ['u', 'l', 'l'] rest)
    | 't' :: rest => do skipFrames length fuel .afterValue frames (← readWord ['r', 'u', 'e'] rest)
    | 'f' :: rest => do
      skipFrames length fuel .afterValue frames (← readWord ['a', 'l', 's', 'e'] rest)
    | c :: rest =>
      if c.isDigit then do skipFrames length fuel .afterValue frames (← skipNumber (c :: rest))
      else .error (.peeked .expectedValue (c :: rest))
  | fuel + 1, mode, frame :: frames, cs =>
    let after := mode matches .afterValue
    match skipBlank cs, frame with
    | [], .list => .error (.here .endInList [])
    | [], .object => .error (.here .endInObject [])
    | ']' :: rest, .list => skipFrames length fuel .afterValue frames rest
    | '}' :: rest, .object => skipFrames length fuel .afterValue frames rest
    | c :: rest, frame =>
      if after ∧ c ≠ ',' then
        .error
          (.peeked (if frame = .list then .expectedItemEnd else .expectedMemberEnd) (c :: rest))
      else
        let rest := if after then rest else c :: rest
        match frame with
        | .list => skipFrames length fuel .value (frame :: frames) rest
        | .object => do skipFrames length fuel .value (frame :: frames) (← skipName length rest)

/-- Skips a value of any shape. -/
def skipValue (fuel : Nat) (cs : List Char) : Except Fault (List Char) :=
  skipFrames fuel (2 * fuel) .value [] cs

end Galley.Json
