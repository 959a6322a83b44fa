/-!
# Blanks

The characters with the Unicode property White_Space, and trimming them off a text.
-/

namespace Galley.Text

/-- Whether a character has the Unicode property White_Space. -/
def isBlank (c : Char) : Bool :=
  let n := c.toNat
  (9 ≤ n && n ≤ 13) || n == 0x20 || n == 0x85 || n == 0xA0 || n == 0x1680
    || (0x2000 ≤ n && n ≤ 0x200A) || n == 0x2028 || n == 0x2029 || n == 0x202F || n == 0x205F
    || n == 0x3000

/-- The text after leading blanks. -/
def trimStart (text : List Char) : List Char := text.dropWhile isBlank

/-- The text without leading and trailing blanks. -/
def trim (text : List Char) : List Char :=
  (trimStart (trimStart text).reverse).reverse

/-- The text without leading and trailing blanks, as a string. -/
def trimString (text : String) : String := String.ofList (trim text.toList)

end Galley.Text
