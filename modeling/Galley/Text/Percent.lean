import Galley.Text.Bytes
import Galley.Text.Digits

/-!
# Percent encoding

A byte can be written as a percent sign and two hexadecimal digits. Everything else stands for
itself, also a percent sign that no two digits follow. Which characters are written as their bytes
differs from place to place.
-/

namespace Galley.Text

/-- The bytes that a percent-encoded text stands for. -/
def percentBytes : List Char → List UInt8
  | '%' :: a :: b :: rest =>
    match hexValue a, hexValue b with
    | some x, some y => UInt8.ofNat (16 * x + y) :: percentBytes rest
    | _, _ => '%'.toUInt8 :: percentBytes (a :: b :: rest)
  | c :: rest => String.utf8EncodeChar c ++ percentBytes rest
  | [] => []

/-- The text that a percent-encoded text stands for, if its bytes are one. -/
def percentDecode? (text : String) : Option String := decode? (percentBytes text.toList)

/-- A byte as a percent sign and two digits. -/
def percentByte (b : UInt8) : List Char :=
  let digit (n : Nat) : Char := (Nat.digitChar n).toUpper
  ['%', digit (b.toNat / 16), digit (b.toNat % 16)]

/-- A text with the characters that do not pass a test written as their bytes. -/
def percentEncoded (isKept : Char → Bool) (cs : List Char) : List Char :=
  cs.flatMap fun c => if isKept c then [c] else (String.utf8EncodeChar c).flatMap percentByte

end Galley.Text
