import Galley.Terminal.Width

/-!
# Tables

A table with a frame of rounded corners and a rule under its first row. A column is as wide as the
widest line in it, and a row as high as its highest cell. Cells are filled up on the right and
below, and keep a blank on either side.
-/

namespace Galley.Terminal

/-- The lines of a cell. -/
def cellLines (text : String) : List (List Char) := (text.splitOn "\n").map String.toList

/-- The number of columns that a cell takes. -/
def cellWidth (text : String) : Nat := ((cellLines text).map width).foldl max 0

/-- The widths of the columns of rows. -/
def columnWidths (rows : List (List String)) : List Nat :=
  rows.foldl
    (fun widths row =>
      let wider := row.map cellWidth
      List.zipWith max (wider ++ List.replicate (widths.length - wider.length) 0)
        (widths ++ List.replicate (wider.length - widths.length) 0))
    []

/-- A line of a cell, filled up to the width of its column. -/
def padLine (columns : Nat) (line : List Char) : String :=
  " " ++ String.ofList (line ++ List.replicate (columns - width line) ' ') ++ " "

/-- The lines of a row. -/
def rowLines (widths : List Nat) (row : List String) : List String :=
  let cells := row.map cellLines
  let height := (cells.map List.length).foldl max 0
  (List.range height).map fun i =>
    "│" ++ String.intercalate "│"
      ((widths.zip cells).map fun (columns, lines) => padLine columns (lines.getD i [])) ++ "│"

/-- A rule from a left to a right end, with joints between columns. -/
def rule (widths : List Nat) (left joint right : String) : String :=
  left ++ String.intercalate joint
    (widths.map fun columns => String.join (List.replicate (columns + 2) "─")) ++ right

/-- The lines of a table with a first row for its columns' names. -/
def tableLines (names : List String) (rows : List (List String)) : List String :=
  let widths := columnWidths (names :: rows)
  rule widths "╭" "┬" "╮" :: rowLines widths names
    ++ rule widths "├" "┼" "┤" :: rows.flatMap (rowLines widths)
    ++ [rule widths "╰" "┴" "╯"]

/-- A table, without a newline at its end. -/
def table (names : List String) (rows : List (List String)) : String :=
  String.intercalate "\n" (tableLines names rows)

end Galley.Terminal
