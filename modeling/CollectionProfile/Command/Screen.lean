import CollectionProfile.Delivery.Artifact
import CollectionProfile.Grid.Basic
import CollectionProfile.Schema.Interchange

/-!
# Screens

What commands print to standard output: grids for people, or JSON.
-/

namespace CollectionProfile.Command.Screen

/-- What stands in a cell that has nothing to say. -/
def nothing : String := "-"

/-- The title of a column of texts. -/
def textColumn (title : String) : Grid.Header := { title }

/-- The title of a column of numbers, which are aligned right. -/
def numberColumn (title : String) : Grid.Header := { title, alignsRight := true }

/-- A grid with the end of its last line. -/
def ofGrid (grid : Grid) : String := grid.render ++ "\n"

/-- A JSON value with the end of its last line. -/
def ofJson (json : Json) : String := json.pretty ++ "\n"

/-- The counts of a schema. -/
def summary (profile : String) (summary : Summary) : String :=
  "Profile: " ++ profile ++ "\n" ++ ofGrid {
    headers := [textColumn "Item", numberColumn "Count"]
    rows :=
      [["Tables", toString summary.tables],
        ["Fields", toString summary.fields],
        ["Relationship types", toString summary.relationships],
        ["Types", toString summary.types],
        ["Lists", toString summary.lists]]
    limit := none
    isRuled := true }

/-- The tables that a table is related to. -/
def relatedNames (schema : Schema) (table : String) : String :=
  match (Mapping.relatedTables schema.relationships table).map (·.1) with
  | [] => nothing
  | names => ", ".intercalate names

/-- The tables of a schema, with the number of all fields at the end. -/
def tables (schema : Schema) : String :=
  ofGrid {
    headers := [textColumn "Table", numberColumn "Fields", textColumn "Related tables"]
    rows :=
      (schema.tables.toList.map fun table =>
        [table.name, toString table.fields.length, relatedNames schema table.name])
        ++ [["TOTAL", toString schema.tables.fieldCount, nothing]] }

/-- The fields of a table, numbered from one. -/
def fields (table : Table) : String :=
  "Table: " ++ table.name ++ "\n" ++ ofGrid {
    headers := numberColumn "#" :: ["Code", "Label", "Datatype", "Description"].map textColumn
    rows := table.fields.zipIdx.map fun (field, i) =>
      [toString (i + 1), field.code, field.label, field.datatype,
        if field.description = "" then nothing else field.description] }

/-- The relationship types of a schema. -/
def relations (relationships : List Relationship) : String :=
  if relationships.isEmpty then "No relationship types.\n"
  else ofGrid {
    headers := ["Code", "Left table", "Right table", "Label", "Reverse label"].map textColumn
    rows := relationships.map fun r => [r.code, r.left, r.right, r.label, r.reverseLabel] }

/-- The files that were written to a directory. -/
def delivered (directory : String) (artifacts : List Artifact) : String :=
  "Output: " ++ directory ++ "\n" ++ ofGrid {
    headers := [textColumn "File", numberColumn "Elements", textColumn "Details"]
    rows := artifacts.map fun artifact =>
      [artifact.fileName, toString artifact.elementCount, artifact.description] }

end CollectionProfile.Command.Screen
