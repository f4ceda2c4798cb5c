import CollectionProfile.Mapping.Single

/-!
# The mapping of all tables

One numbering for all tables: the root row, then for every table a container row and under it the
table's fields, always named by their codes. The tables come in the order of the keys they are
stored under, and are called by their own names. Relations are left out.
-/

namespace CollectionProfile.Mapping

/-- The table that the settings of the combined mapping name. -/
def primaryTable : String := "ca_objects"

/-- The container row of a table and the rows of its fields. -/
def tableRows (table : Table) (numbering : Numbering) : List Row × Numbering :=
  let (container, numbering) := numbering.take
  let (numbered, numbering) := numbering.assign table.fields
  (.numbered container (some rootId) table.name "" "" ("Table " ++ table.name)
    :: numbered.map fun (field, id) => fieldRow table.name .technical container field id,
    numbering)

/-- The rows of several tables, in order. -/
def tablesRows : List Table → Numbering → List Row × Numbering
  | [], numbering => ([], numbering)
  | table :: rest, numbering =>
    let (rows, numbering) := tableRows table numbering
    let (more, numbering) := tablesRows rest numbering
    (rows ++ more, numbering)

/-- The settings of the combined mapping. -/
def combinedSettings (convention : Convention) : List Row :=
  let token := convention.token
  settingsBlock ("export_all_tables_" ++ convention.smallToken) "All tables combined"
    ("Export All Tables (" ++ token ++ ")") primaryTable "Primary table" token

/-- One mapping for all tables, in the order of their keys. -/
def combine (tables : KeyedTables) (convention : Convention) : Sheet :=
  let (rows, _) := tablesRows tables.values .afterRoot
  { rows := .root "Root element for XML export" :: rows ++ separators
      ++ combinedSettings convention
    fieldRows := tables.fieldCount
    relationRows := 0 }

/-- The mapping of all tables of a schema. -/
def compileCombined (schema : Schema) (convention : Convention) : Sheet :=
  combine schema.tables.keyed convention

end CollectionProfile.Mapping
