/-!
# Lines of a text

A text is a list of characters, and a *line* is a stretch of it that ends with a newline; only the
last line of a text may lack one. Nothing is lost by the cut: the lines, joined, are the text
(`flatten_lines`). A newline stands only at the end of a line, so a carriage return or a form feed
is an ordinary character.
-/

namespace Galley

/-- A line of a text, its newline included. -/
abbrev Line := List Char

namespace Text

/-- Puts a character in front of lines: onto the first line, unless it is a newline. -/
def consChar (c : Char) (lines : List Line) : List Line :=
  if c = '\n' then [c] :: lines
  else match lines with
    | [] => [[c]]
    | line :: more => (c :: line) :: more

/-- The lines of a text, cut after each newline. -/
def lines (text : List Char) : List Line := text.foldr consChar []

/-- The lines of a text with one more character in front. -/
@[simp] theorem lines_cons (c : Char) (rest : List Char) :
    lines (c :: rest) = consChar c (lines rest) := rfl

/-- The lines of a text are the text. -/
@[simp] theorem flatten_lines (text : List Char) : (lines text).flatten = text := by
  induction text with
  | nil => rfl
  | cons c rest ih =>
    rw [lines_cons, consChar.eq_def]
    split
    · simp [ih]
    · split <;> simp_all

/-- Whether the line carries its newline. -/
def endsWithNewline (line : Line) : Bool := line.getLast? == some '\n'

end Text

end Galley
