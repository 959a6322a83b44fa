/-!
# Paint

Text that stands out on a terminal. A *paint* is a list of effects; painted text is put between the
sequence that switches the effects on and the one that switches all effects off. Where the text
itself switches effects off, they are switched on again.
-/

namespace Galley.Terminal

/-- An effect. -/
inductive Effect where
  | bold
  | dimmed
  | underlined
  | red
  | green
  | cyan
  deriving DecidableEq, Repr

/-- The number of an effect. -/
def Effect.number : Effect → Nat
  | bold => 1
  | dimmed => 2
  | underlined => 4
  | red => 31
  | green => 32
  | cyan => 36

/-- Effects, in increasing order of their numbers. -/
abbrev Paint := List Effect

/-- The sequence that switches effects on. -/
def switchOn (paint : Paint) : String :=
  "\x1b[" ++ String.intercalate ";" (paint.map fun e => toString e.number) ++ "m"

/-- The sequence that switches all effects off. -/
def switchOff : String := "\x1b[0m"

/-- Paints a text, if colours are on. -/
def painted (colours : Bool) (paint : Paint) (text : String) : String :=
  if colours then
    switchOn paint ++ String.intercalate (switchOff ++ switchOn paint) (text.splitOn switchOff)
      ++ switchOff
  else text

end Galley.Terminal
