import Galley.Terminal.Paint
import Galley.Terminal.Width

/-!
# Styled lines

A line in which some stretches stand out. It is as wide as its text, whether it is shown with its
effects or without them.
-/

namespace Galley.Terminal

/-- A stretch of a line, with the effects that it is shown with. -/
structure Span where
  paint : Paint
  text : String
  deriving DecidableEq, Repr

/-- A line in stretches. -/
abbrev Styled := List Span

/-- A stretch that does not stand out. -/
def Span.plain (text : String) : Span := ⟨[], text⟩

/-- A stretch with its effects switched on one by one, if effects are shown. -/
def Span.render (effects : Bool) (s : Span) : String :=
  if effects && !s.paint.isEmpty then
    String.join (s.paint.map fun e => switchOn [e]) ++ s.text ++ switchOff
  else s.text

/-- The text of a line. -/
def Styled.text (line : Styled) : String := String.join (line.map Span.text)

/-- How many columns a line takes. -/
def Styled.width (line : Styled) : Nat := Terminal.width line.text.toList

/-- A line as it is shown. -/
def Styled.render (effects : Bool) (line : Styled) : String :=
  String.join (line.map (Span.render effects))

end Galley.Terminal
