/-!
# Words

How many values a word of so many bits has. A signed word has one bit less for its size: those of 64
bits, for one, are at least `-values63` and less than `values63`.
-/

namespace Galley.Word

/-- How many values a word of 16 bits has. -/
abbrev values16 : Nat := 0x10000

/-- How many values a word of 31 bits has. -/
abbrev values31 : Nat := 0x80000000

/-- How many values a word of 32 bits has. -/
abbrev values32 : Nat := 0x100000000

/-- How many values a word of 63 bits has. -/
abbrev values63 : Nat := 0x8000000000000000

/-- How many values a word of 64 bits has. -/
abbrev values64 : Nat := 0x10000000000000000

/-- How many values a word of 128 bits has. -/
abbrev values128 : Nat := 0x100000000000000000000000000000000

end Galley.Word
