import CollectionProfile.Mapping.Sheet

/-!
# Sheets as comma separated values

Every cell stands in double quotes, with a quote inside it written twice; cells are separated by
commas and every record ends with a line feed. A byte-order mark stands in front of the header.
-/

namespace CollectionProfile.Csv

/-- The byte-order mark. -/
def byteOrderMark : Char := '\uFEFF'

/-- A text with each quote in it written twice. -/
def doubled : List Char → List Char
  | [] => []
  | c :: rest => if c = '"' then '"' :: '"' :: doubled rest else c :: doubled rest

/-- The written form of a cell. -/
def cell (text : String) : List Char := '"' :: doubled text.toList ++ ['"']

/-- The written form of a record. -/
def record (cells : List String) : List Char :=
  List.intercalate [','] (cells.map cell) ++ ['\n']

/-- The written form of a sheet. -/
def render (sheet : Mapping.Sheet) : List Char :=
  byteOrderMark :: (Mapping.Row.header :: sheet.rows.map (·.cells)).flatMap record

end CollectionProfile.Csv
