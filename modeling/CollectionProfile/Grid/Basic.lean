import CollectionProfile.Grid.Width

/-!
# Grids

A grid of texts with a header, drawn with round corners. Cells are padded by one space on either
side; a cell may have several lines.
-/

namespace CollectionProfile

/-- The header of a column, and how its cells are aligned. -/
structure Grid.Header where
  title : String
  alignsRight : Bool := false
deriving DecidableEq, Repr

/-- A grid of texts. -/
structure Grid where
  headers : List Grid.Header
  rows : List (List String)
  /-- The greatest total width, if there is one. -/
  limit : Option Nat := some 120
  /-- Whether lines are drawn between rows, and the inner borders solid. -/
  isRuled : Bool := false
deriving DecidableEq, Repr

namespace Grid

/-- The lines of a text. -/
def linesOf (text : String) : List (List Char) :=
  text.toList.foldr (fun c lines =>
    match lines with
    | [] => [[c]]
    | line :: rest => if c = '\n' then [] :: line :: rest else (c :: line) :: rest) [[]]

/-- The lines of the cells of the columns, headers included. -/
def columnLines (grid : Grid) : List ColumnLines :=
  grid.headers.zipIdx.map fun (header, column) =>
    linesOf header.title ++ grid.rows.flatMap fun row => linesOf (row.getD column "")

/-- A line of a cell, filled up to the width of its column and padded. -/
def padded (width : Nat) (alignsRight : Bool) (line : List Char) : List Char :=
  let fill := List.replicate (width - line.length) ' '
  ' ' :: (if alignsRight then fill ++ line else line ++ fill) ++ [' ']

/-- A border line, made of its ends, its joints and the strokes between them. -/
def border (left stroke joint right : Char) (widths : List Nat) : List Char :=
  left :: List.intercalate [joint] (widths.map fun width => List.replicate (width + 2) stroke)
    ++ [right]

/-- The lines of a row of cells. -/
def rowLines (inner : Char) (columns : List (Nat × Bool)) (cells : List String) :
    List (List Char) :=
  let wrapped := (columns.zip cells).map fun ((width, alignsRight), cell) =>
    (width, alignsRight, (linesOf cell).flatMap (wrap width))
  let height := (wrapped.map (·.2.2.length)).foldl max 0
  (List.range height).map fun i =>
    '│' :: List.intercalate [inner] (wrapped.map fun (width, alignsRight, lines) =>
      padded width alignsRight (lines.getD i [])) ++ ['│']

/-- All lines of a grid. -/
def lines (grid : Grid) : List (List Char) :=
  let widths := Grid.widths grid.limit grid.columnLines
  let columns := widths.zip (grid.headers.map (·.alignsRight))
  let inner := if grid.isRuled then '│' else '┆'
  let rows := grid.rows.map (rowLines inner columns)
  let ruled := if grid.isRuled then rows.intersperse [border '├' '─' '┼' '┤' widths] else rows
  border '╭' '─' '┬' '╮' widths
    :: rowLines inner columns (grid.headers.map (·.title))
    ++ border '╞' '═' '╪' '╡' widths
    :: ruled.flatten
    ++ [border '╰' '─' '┴' '╯' widths]

/-- The drawn grid. Its last line has no line feed after it. -/
def render (grid : Grid) : String := "\n".intercalate (grid.lines.map String.ofList)

end Grid

end CollectionProfile
