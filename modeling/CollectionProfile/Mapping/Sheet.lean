/-!
# Mapping sheets

A sheet is a run of rows with nine cells each, together with the counts that are reported for it.
Rows are mapping rules, settings, or blank separators.
-/

namespace CollectionProfile.Mapping

/-- What a row of a sheet is. -/
inductive Rule
  | mapping
  | setting
  /-- A separator, or the heading of the settings. -/
  | blank
deriving DecidableEq, Repr, Inhabited

/-- The text of the first cell. -/
def Rule.text : Rule → String
  | .mapping => "Mapping"
  | .setting => "Setting"
  | .blank => ""

/-- One row of a sheet. In a setting the cells from `id` on hold key, value, description and
note. -/
structure Row where
  rule : Rule
  id : String := ""
  parent : String := ""
  element : String := ""
  source : String := ""
  options : String := ""
  notes : String := ""
  originalValues : String := ""
  replacementValues : String := ""
deriving DecidableEq, Repr, Inhabited

/-- The number of the root row. -/
def rootId : Nat := 1

/-- The element name of the root row. -/
def rootElement : String := "record"

namespace Row

/-- The headings of the nine columns. -/
def header : List String :=
  ["Rule type", "ID", "Parent ID", "Element", "Source", "Options", "Notes", "Original values",
    "Replacement values"]

/-- The nine cells, in the order of the headings. -/
def cells (row : Row) : List String :=
  [row.rule.text, row.id, row.parent, row.element, row.source, row.options, row.notes,
    row.originalValues, row.replacementValues]

/-- A mapping rule with the number `id` under the row numbered `parent`. -/
def numbered (id : Nat) (parent : Option Nat) (element source options notes : String) : Row where
  rule := .mapping
  id := toString id
  parent := (parent.map toString).getD ""
  element
  source
  options
  notes

/-- The root row, which alone has no parent. -/
def root (notes : String) : Row := numbered rootId none rootElement "" "" notes

/-- A setting. -/
def setting (key value description note : String) : Row where
  rule := .setting
  id := key
  parent := value
  element := description
  source := note

/-- The heading of the settings. -/
def settingsHeader : Row where
  rule := .blank
  id := "Setting"
  parent := "Setting Value"
  element := "Description"
  source := "Notes"

/-- An empty row. -/
def separator : Row where
  rule := .blank

end Row

/-- A compiled mapping, without its header. -/
structure Sheet where
  rows : List Row
  /-- The number of rows made from fields. -/
  fieldRows : Nat
  /-- The number of rows made from relations. -/
  relationRows : Nat
deriving DecidableEq, Repr, Inhabited

namespace Sheet

/-- The rows that are mapping rules. -/
def mappingRows (sheet : Sheet) : List Row := sheet.rows.filter (·.rule = .mapping)

/-- The rows that are settings. -/
def settings (sheet : Sheet) : List Row := sheet.rows.filter (·.rule = .setting)

/-- The value of the first setting with this key. -/
def setting? (sheet : Sheet) (key : String) : Option String :=
  (sheet.settings.find? (·.id = key)).map (·.parent)

/-- The count reported once a mapping is delivered. -/
def elementCount (sheet : Sheet) : Nat := sheet.fieldRows + sheet.relationRows

end Sheet

end CollectionProfile.Mapping
