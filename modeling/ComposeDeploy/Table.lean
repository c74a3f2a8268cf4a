/-
Tables of text.

Every column is as wide as its widest line and every row as high as its
highest cell. A cell is a space, its text padded on the right to the width of
its column, and a space; the cells of a row are joined by spaces.
-/

import ComposeDeploy.Text.Blank
import ComposeDeploy.Text.Width

namespace ComposeDeploy.Table

/-- The lines of a cell; a cell has at least one. -/
abbrev Cell := List (List Char)

/-- The cell of a text. -/
def Cell.ofText (s : String) : Cell :=
  Text.pieces (· == '\n') s.toList

/-- The columns that a cell takes. -/
def Cell.width (cell : Cell) : Nat :=
  (cell.map Text.Width.columns).foldl max 0

/-- The widths of the columns, where a row may lack its last cells. -/
def widths (rows : List (List Cell)) : List Nat :=
  rows.foldl
    (fun widths row =>
      let own := row.map Cell.width
      (List.range (max widths.length own.length)).map fun i =>
        max (widths.getD i 0) (own.getD i 0))
    []

/-- A line of a cell, padded to its column. -/
def paddedLine (width : Nat) (line : List Char) : List Char :=
  ' ' :: (line ++ List.replicate (width - Text.Width.columns line) ' ' ++ [' '])

/-- The lines of a row. -/
def rowLines (widths : List Nat) (row : List Cell) : List (List Char) :=
  let height := (row.map List.length).foldl max 0
  (List.range height).map fun i =>
    [' '].intercalate ((widths.zip row).map fun (width, cell) =>
      paddedLine width (cell.getD i []))

/-- The text of a table. -/
def render (rows : List (List String)) : String :=
  let cells := rows.map fun row => row.map Cell.ofText
  let widths := widths cells
  String.ofList (['\n'].intercalate (cells.flatMap (rowLines widths)))

end ComposeDeploy.Table
