/-!
# Text in bytes

Bytes that should be a text in UTF-8. `decode` reads them strictly; `decodeLossy` puts the
replacement character for every stretch that cannot be read, where a stretch is the longest start
of a character that goes wrong, or one byte.
-/

namespace Galley.Text

/-- The character that stands for what cannot be read. -/
def replacement : Char := '\uFFFD'

/-- Whether a byte goes on a character. -/
def continues (b : UInt8) : Bool := 0x80 ≤ b && b ≤ 0xBF

/-- How many bytes follow a first byte, and the range that the next one must lie in. No byte can
follow one that starts no character. -/
def lead (b : UInt8) : Option (Nat × UInt8 × UInt8) :=
  if b < 0x80 then some (0, 0, 0)
  else if b < 0xC2 then none
  else if b < 0xE0 then some (1, 0x80, 0xBF)
  else if b = 0xE0 then some (2, 0xA0, 0xBF)
  else if b = 0xED then some (2, 0x80, 0x9F)
  else if b < 0xF0 then some (2, 0x80, 0xBF)
  else if b = 0xF0 then some (3, 0x90, 0xBF)
  else if b < 0xF4 then some (3, 0x80, 0xBF)
  else if b = 0xF4 then some (3, 0x80, 0x8F)
  else none

/-- The bits that a first byte gives to a character of the given number of further bytes. -/
def leadBits (b : UInt8) (more : Nat) : Nat :=
  match more with
  | 0 => b.toNat
  | 1 => b.toNat % 0x20
  | 2 => b.toNat % 0x10
  | _ => b.toNat % 0x08

/-- Where the reading of bytes stands: between characters, or in one, with the bytes still to come,
the bits so far, and the range of the next byte. -/
inductive Decoding where
  | between
  | within (more bits : Nat) (low high : UInt8)

/-- Starts a character with a byte: what can be told at once, and where the reading stands then. -/
def startChar (b : UInt8) : Option Char × Decoding :=
  match lead b with
  | none => (some replacement, .between)
  | some (0, _, _) => (some (Char.ofNat b.toNat), .between)
  | some (more, low, high) => (none, .within more (leadBits b more) low high)

/-- Reads bytes as a text; `true` says that nothing had to be replaced. The characters come last
first. -/
def decodeFrom : Decoding → (done : List Char) → (clean : Bool) → List UInt8 → List Char × Bool
  | .between, done, clean, [] => (done, clean)
  | .within .., done, _, [] => (replacement :: done, false)
  | .between, done, clean, b :: rest =>
    let (c, next) := startChar b
    decodeFrom next (c.toList ++ done) (clean && (lead b).isSome) rest
  | .within more bits low high, done, clean, b :: rest =>
    if low ≤ b ∧ b ≤ high then
      let bits := bits * 64 + b.toNat % 64
      if more ≤ 1 then decodeFrom .between (Char.ofNat bits :: done) clean rest
      else decodeFrom (.within (more - 1) bits 0x80 0xBF) done clean rest
    else
      let (c, next) := startChar b
      decodeFrom next (c.toList ++ replacement :: done) false rest

/-- Reads bytes as a text, with replacements. -/
def decodeLossy (bytes : List UInt8) : String :=
  String.ofList (decodeFrom .between [] true bytes).1.reverse

/-- Reads bytes as a text, if they are one. -/
def decode? (bytes : List UInt8) : Option String :=
  let (done, clean) := decodeFrom .between [] true bytes
  if clean then some (String.ofList done.reverse) else none

/-- The number of bytes of a text. -/
def byteLength : List Char → Nat
  | [] => 0
  | c :: cs => c.utf8Size + byteLength cs

/-- The bytes of a text. -/
def encode (text : String) : List UInt8 := text.toUTF8.toList

end Galley.Text
