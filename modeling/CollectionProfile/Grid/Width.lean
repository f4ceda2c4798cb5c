import CollectionProfile.Grid.Wrap

/-!
# Column widths

A grid that may not exceed a width shares out the room that its borders and paddings leave. Columns
that need no more than an equal share get what they need; then columns that wrap well into their
share get what they need after wrapping; the others share what is left.
-/

namespace CollectionProfile.Grid

/-- The lines of the cells of a column, its header included. -/
abbrev ColumnLines := List (List Char)

/-- The width that a column needs so that no line of it is wrapped. -/
def fullWidth (lines : ColumnLines) : Nat := (lines.map (·.length)).foldl max 0

/-- The size of the largest line of a column, in bytes, after wrapping to a width. -/
def wrappedSize (width : Nat) (lines : ColumnLines) : Nat :=
  ((lines.flatMap (wrap width)).map fun line => (String.ofList line).utf8ByteSize).foldl max 0

/-- The room that is left, and how many columns still have no width. -/
structure Room where
  free : Nat
  columns : Nat
deriving DecidableEq, Repr

/-- An equal share of the room for each column without a width. -/
def Room.share (room : Room) : Nat := room.free / room.columns

/-- A column of which the width may be known already. -/
structure Column where
  lines : ColumnLines
  width : Option Nat

/-- One pass over the columns from the left. `fit` says, for an equal share of the room, what width
a column is to get, if any. -/
def fixPass (fit : Nat → ColumnLines → Option Nat) (room : Room) :
    List Column → List Column × Room
  | [] => ([], room)
  | column :: rest =>
    match column.width, fit room.share column.lines with
    | none, some width =>
      let (fixed, left) := fixPass fit ⟨room.free - width, room.columns - 1⟩ rest
      ({ column with width := some width } :: fixed, left)
    | _, _ =>
      let (fixed, left) := fixPass fit room rest
      (column :: fixed, left)

/-- Passes over the columns until one gives no column a width, at most as many as given. -/
def fixPasses (fit : Nat → ColumnLines → Option Nat) :
    Nat → Room → List Column → List Column × Room
  | 0, room, columns => (columns, room)
  | passes + 1, room, columns =>
    let (fixed, left) := fixPass fit room columns
    if left.columns < room.columns then fixPasses fit passes left fixed else (fixed, left)

/-- A column that needs no more than its share gets what it needs. -/
def fitWhole (share : Nat) (lines : ColumnLines) : Option Nat :=
  if fullWidth lines ≤ share then some (fullWidth lines) else none

/-- A column that leaves at least three columns of its share free after wrapping gets what it needs
then. -/
def fitWrapped (share : Nat) (lines : ColumnLines) : Option Nat :=
  let size := wrappedSize share lines
  if size + 3 ≤ share then some size else none

/-- The widths of columns, where those without one share the room; what is left over goes to them
from the left, one each. -/
def shareOut (share excess : Nat) : List Column → List Nat
  | [] => []
  | column :: rest =>
    match column.width with
    | some width => width :: shareOut share excess rest
    | none => (if 0 < excess then share + 1 else share) :: shareOut share (excess - 1) rest

/-- The widths of the columns of a grid of at most the given total width. -/
def widthsWithin (total : Nat) (columns : List ColumnLines) : List Nat :=
  let count := columns.length
  -- One column goes to each border, and two to the padding of each cell.
  let room : Room := ⟨total - (count + 1) - 2 * count, count⟩
  let start := columns.map fun lines => (⟨lines, none⟩ : Column)
  let (fixed, room) := fixPasses fitWhole count room start
  let (fixed, room) := fixPasses fitWrapped count room fixed
  shareOut room.share (room.free - room.share * room.columns) fixed

/-- The widths of the columns of a grid, which may have a limit to its total width. -/
def widths (limit : Option Nat) (columns : List ColumnLines) : List Nat :=
  match limit with
  | none => columns.map fullWidth
  | some total => widthsWithin total columns

end CollectionProfile.Grid
