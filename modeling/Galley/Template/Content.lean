import Galley.Json.ShapeReader

/-!
# Template content

The content of a template is a page grid and two lists of values that are opaque here, its
components and its parameters. Its *canonical text* is the indented JSON of the three parts and a
final newline; content patches are made from and applied to canonical texts.
-/

namespace Galley

/-- A page grid. -/
structure Grid where
  columns : UInt32
  gap : UInt32
  deriving DecidableEq, Repr

namespace Grid

/-- The grid of a template that asks for none. -/
def standard : Grid := ⟨12, 16⟩

/-- The shape of a grid. -/
abbrev shape : Json.Shape :=
  .record "TemplateGrid" (.cons "columns" .required .word32 (.cons "gap" .required .word32 .nil))

/-- The grid as data of its shape. -/
def toData (g : Grid) : shape.Value := (g.columns, g.gap, ())

/-- The grid that data of its shape stands for. -/
def ofData : shape.Value → Grid
  | (columns, gap, ()) => ⟨columns, gap⟩

end Grid

/-- The content of a template. -/
structure Content where
  grid : Grid
  components : List Json
  parameters : List Json
  deriving Repr

namespace Content

/-- The content of a template that has none. -/
def empty : Content := ⟨.standard, [], []⟩

instance : Inhabited Content := ⟨empty⟩

/-- The shape of content; every part may be left out. -/
abbrev shape : Json.Shape :=
  .record "TemplateContent"
    (.cons "grid" .optional Grid.shape
      (.cons "components" .optional (.list .json)
        (.cons "variables" .optional (.list .json) .nil)))

/-- The content as data of its shape. -/
def toData (c : Content) : shape.Value :=
  (some c.grid.toData, some c.components, some c.parameters, ())

/-- The content that data of its shape stands for. -/
def ofData : shape.Value → Content
  | (grid, components, parameters, ()) =>
    ⟨(grid.map Grid.ofData).getD .standard, components.getD [], parameters.getD []⟩

/-- The content as JSON. -/
def toJson (c : Content) : Json := shape.encode c.toData

/-- Whether two contents are equal, their opaque values compared as JSON. -/
def same (a b : Content) : Bool :=
  a.grid == b.grid && Json.sameItems a.components b.components
    && Json.sameItems a.parameters b.parameters

/-- The canonical text of content. -/
def toText (c : Content) : String := String.ofList (c.toJson.indented 0 ++ ['\n'])

/-- Reads content off a text. -/
def parse (text : String) : Except String Content :=
  match shape.parse text with
  | .ok data => .ok (ofData data)
  | .error fault => .error (fault.message text.toList)

end Content

end Galley
