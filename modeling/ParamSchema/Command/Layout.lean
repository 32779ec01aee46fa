import ParamSchema.Text.Width

/-!
Tables drawn with lines. Each column is as wide as its widest cell; a cell may have several lines.
-/

namespace ParamSchema

/-- The lines between and around the cells of a table. -/
structure Ruling where
  /-- A row of the border: its left end, filling, crossing and right end. -/
  top : Char × Char × Char × Char
  underHeader : Char × Char × Char × Char
  betweenRows : Char × Char × Char × Char
  bottom : Char × Char × Char × Char
  side : Char
  betweenColumns : Char

/-- Full lines around the table, dashed ones between columns and rows, a double one under the
header. -/
def fullRuling : Ruling where
  top := ('┌', '─', '┬', '┐')
  underHeader := ('╞', '═', '╪', '╡')
  betweenRows := ('├', '╌', '┼', '┤')
  bottom := ('└', '─', '┴', '┘')
  side := '│'
  betweenColumns := '┆'

namespace Layout

/-- The lines of a cell. -/
def cellLines (cell : String) : List String :=
  cell.splitOn "\n"

/-- The columns that the widest line of a cell takes. -/
def cellWidth (cell : String) : Nat :=
  ((cellLines cell).map Text.width).foldl max 0

/-- The widths of columns of which each is no narrower than either of the two given. -/
def widen : List Nat → List Nat → List Nat
  | [], widths => widths
  | widths, [] => widths
  | a :: as, b :: bs => max a b :: widen as bs

/-- The width of each column, at least one. -/
def columnWidths (rows : List (List String)) : List Nat :=
  (rows.foldl (fun widths row => widen widths (row.map cellWidth)) []).map (max 1)

/-- A line of the border. -/
def rule (widths : List Nat) (ends : Char × Char × Char × Char) : String :=
  let (left, fill, cross, right) := ends
  let spans := widths.map fun width => String.ofList (List.replicate (width + 2) fill)
  left.toString ++ cross.toString.intercalate spans ++ right.toString

/-- A line of a cell with a blank before it and blanks after it up to the column's width. -/
def padded (width : Nat) (line : String) : String :=
  " " ++ line ++ String.ofList (List.replicate (width - Text.width line + 1) ' ')

/-- The lines of a row. -/
def rowLines (ruling : Ruling) (widths : List Nat) (row : List String) : List String :=
  let cells := row.map cellLines
  let height := (cells.map List.length).foldl max 0
  (List.range height).map fun i =>
    let parts := (widths.zip cells).map fun (width, lines) => padded width (lines.getD i "")
    ruling.side.toString ++ ruling.betweenColumns.toString.intercalate parts ++
      ruling.side.toString

/-- The lines of rows with a line between each two. -/
def bodyLines (ruling : Ruling) (widths : List Nat) : List (List String) → List String
  | [] => []
  | [row] => rowLines ruling widths row
  | row :: rest =>
    rowLines ruling widths row ++ [rule widths ruling.betweenRows] ++
      bodyLines ruling widths rest

/-- A table with a header. -/
def table (header : List String) (rows : List (List String)) : String :=
  let ruling := fullRuling
  let widths := columnWidths (header :: rows)
  "\n".intercalate
    ([rule widths ruling.top] ++ rowLines ruling widths header ++
      [rule widths ruling.underHeader] ++ bodyLines ruling widths rows ++
      [rule widths ruling.bottom])

end Layout

end ParamSchema
