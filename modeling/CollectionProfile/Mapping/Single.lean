import CollectionProfile.Failure
import CollectionProfile.Mapping.Relations
import CollectionProfile.Schema.Basic

/-!
# The mapping of one table

A root row, a row for every field, the rows of the table's relations where they are wanted, and
after three separators the settings of the mapping.
-/

namespace CollectionProfile.Mapping

/-- How elements are named, and with it the exporter the mapping is for. -/
inductive Convention
  /-- Elements are named by field codes. -/
  | technical
  /-- Elements are named by field labels. -/
  | readable
deriving DecidableEq, Repr, Inhabited

namespace Convention

/-- The exporter format. -/
def token : Convention → String
  | .technical => "XML"
  | .readable => "CSV"

/-- The exporter format in small letters, as it stands in mapping codes. -/
def smallToken : Convention → String
  | .technical => "xml"
  | .readable => "csv"

/-- The element name of a field. -/
def elementName : Convention → Field → String
  | .technical, field => field.code
  | .readable, field => field.label

end Convention

/-- What the mapping of one table is to be like. -/
structure Options where
  convention : Convention := .technical
  relations : Bool := true
deriving DecidableEq, Repr, Inhabited

/-- The rows between the rules and the settings. -/
def separators : List Row := List.replicate 3 .separator

/-- The settings of a mapping, given their values and the notes that differ between mappings. -/
def settingsBlock (code codeNote name table tableNote token : String) : List Row :=
  [.settingsHeader,
    .setting "code" code "Alphanumeric code of the mapping" codeNote,
    .setting "name" name "Human readable name of the mapping" "Arbitrary text",
    .setting "table" table "Sets the table for the exported data" tableNote,
    .setting "exporter_format" token "Set exporter type" "XML, CSV or MARC"]

/-- The settings of the mapping of one table. -/
def tableSettings (table : String) (options : Options) : List Row :=
  let token := options.convention.token
  settingsBlock ("export_" ++ entityName table ++ "_" ++ options.convention.smallToken)
    "Arbitrary, no special characters or spaces"
    ("Export " ++ table ++ " (" ++ token ++ ")"
      ++ if options.relations then " avec relations" else "")
    table "Corresponds to CollectiveAccess Basic Tables" token

/-- The row of a field under the row numbered `parent`. -/
def fieldRow (table : String) (convention : Convention) (parent : Nat) (field : Field) (id : Nat) :
    Row :=
  .numbered id (some parent) (convention.elementName field) (field.source table) "" field.notes

/-- The mapping of a table with the given fields. -/
def compileFields (table : String) (fields : List Field) (relationships : List Relationship)
    (options : Options) : Sheet :=
  let (numbered, numbering) := Numbering.afterRoot.assign fields
  let fieldRows := numbered.map fun (field, id) =>
    fieldRow table options.convention rootId field id
  let relations :=
    if options.relations then (compileRelations relationships table numbering.next).1 else []
  { rows := .root "Root element for export" :: fieldRows ++ relations ++ separators
      ++ tableSettings table options
    fieldRows := fields.length
    relationRows := relations.length }

/-- The mapping of one table of a schema. -/
def compileTable (schema : Schema) (table : String) (options : Options) : Except Failure Sheet :=
  match schema.table? table with
  | some entry => .ok (compileFields table entry.fields schema.relationships options)
  | none => .error (.unknownTable table)

/-- The mappings of all tables of a schema, in the order of its tables. -/
def compileAll (schema : Schema) (options : Options) : Except Failure (List (String × Sheet)) :=
  schema.tables.names.mapM fun table =>
    (compileTable schema table options).map fun sheet => (table, sheet)

end CollectionProfile.Mapping
