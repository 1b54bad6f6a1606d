import TemplateCatalog.Text.Width

/-!
# Tables

Tables with a frame of thin lines and rounded corners, a line under the header, and as many lines
of text in a row as its tallest cell has. Columns are as wide as their widest cell, with a blank on
either side.
-/

namespace TemplateCatalog.CommandLine

/-- The lines of a cell. -/
def cellLines (cell : String) : List String :=
  cell.splitOn "\n"

/-- How many columns of the screen a cell takes. -/
def cellWidth (cell : String) : Nat :=
  ((cellLines cell).map Text.width).foldl max 0

/-- Blanks. -/
def blanks (count : Nat) : String :=
  String.ofList (List.replicate count ' ')

/-- Where a cell stands within its column. -/
inductive Alignment where
  /-- At the left side. -/
  | left
  /-- In the middle, or one place further left. -/
  | center
  deriving DecidableEq, Repr

/-- A line of text that fills a column of the given width; `block` is the width of the whole
cell. -/
def alignLine (alignment : Alignment) (width block : Nat) (line : String) : String :=
  let free := width - block
  let lead :=
    match alignment with
    | .left => 0
    | .center => free / 2
  blanks lead ++ line ++ blanks (width - lead - Text.width line)

/-- A table: a header and rows of as many cells. -/
structure Table where
  /-- The cells of the header. -/
  header : List String
  /-- Where the cells of the header stand. -/
  headerAlignment : Alignment
  /-- The rows. -/
  rows : List (List String)
  deriving Repr

namespace Table

/-- The widths of the columns. -/
def widths (table : Table) : List Nat :=
  table.rows.foldl (fun widths row => widths.zipWith max (row.map cellWidth))
    (table.header.map cellWidth)

/-- A horizontal line. -/
def rule (left joint right : String) (widths : List Nat) : String :=
  let bars := widths.map fun width => String.ofList (List.replicate (width + 2) '─')
  left ++ joint.intercalate bars ++ right

/-- The lines of a row, every cell filled up to the width of its column and to the height of the
row. -/
def rowLines (alignment : Alignment) (widths : List Nat) (row : List String) : List String :=
  let height := (row.map fun cell => (cellLines cell).length).foldl max 0
  (List.range height).map fun i =>
    let cells := row.zipWith (fun cell width =>
      let line := (cellLines cell)[i]?.getD ""
      " " ++ alignLine alignment width (cellWidth cell) line ++ " ") widths
    "│" ++ "│".intercalate cells ++ "│"

/-- The lines of the table. -/
def lines (table : Table) : List String :=
  let widths := table.widths
  [rule "╭" "┬" "╮" widths] ++
    rowLines table.headerAlignment widths table.header ++
    [rule "├" "┼" "┤" widths] ++
    table.rows.flatMap (rowLines .left widths) ++
    [rule "╰" "┴" "╯" widths]

/-- The text of the table. -/
def render (table : Table) : String :=
  "\n".intercalate table.lines

end Table

end TemplateCatalog.CommandLine
