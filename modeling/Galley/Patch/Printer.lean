import Galley.Patch.Hunk

/-!
# Unified patches

The written form of a list of hunks: two lines that name the sides, then for each hunk a header
with the two ranges and one line per hunk line, led by a blank, a minus or a plus sign. An empty
context line is written without its blank. A line that ends without a newline is followed by a
marker line.
-/

namespace Galley.Patch

/-- The lines above the first hunk. -/
def preamble : List Char := "--- original\n+++ modified\n".toList

/-- The marker below a line that has no newline, without the newline that ends it. -/
def noNewlineMarker : List Char := "\\ No newline at end of file".toList

/-- A range of a hunk header; a length of one is left out. -/
def printRange (start length : Nat) : List Char :=
  Nat.toDigits 10 start ++ if length = 1 then [] else ',' :: Nat.toDigits 10 length

/-- Ends a written line: one that carries no newline is ended and marked. -/
def terminate (line : List Char) : List Char :=
  if Text.endsWithNewline line then line else line ++ '\n' :: noNewlineMarker ++ ['\n']

namespace HunkLine

/-- The written form of a hunk line. -/
def print : HunkLine → List Char
  | context line => if line = ['\n'] then line else terminate (' ' :: line)
  | delete line => terminate ('-' :: line)
  | insert line => terminate ('+' :: line)

end HunkLine

namespace Hunk

/-- The header line of a hunk. -/
def printHeader (hunk : Hunk) : List Char :=
  "@@ -".toList ++ printRange hunk.oldStart hunk.before.length ++ " +".toList
    ++ printRange hunk.newStart hunk.after.length ++ " @@\n".toList

/-- The written form of a hunk. -/
def print (hunk : Hunk) : List Char :=
  hunk.printHeader ++ hunk.lines.flatMap HunkLine.print

end Hunk

/-- The written form of a list of hunks. -/
def print (hunks : List Hunk) : List Char := preamble ++ hunks.flatMap Hunk.print

end Galley.Patch
