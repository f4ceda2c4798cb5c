import CollectionProfile.Failure
import CollectionProfile.Markup.Block
import CollectionProfile.Schema.Basic

/-!
# Schema documents

A schema document lists the fields of one table, without numbers and relations. The combined
document holds those of all tables.
-/

namespace CollectionProfile.SchemaDocument

open Markup (Block)

/-- The block of one field. A description is present only where it is not empty. -/
def fieldBlock (table : String) (field : Field) : Block where
  name := "field"
  children :=
    [.ofText "code" field.code, .ofText "label" field.label, .ofText "datatype" field.datatype]
      ++ (if field.description = "" then [] else [.ofText "description" field.description])
      ++ [.ofText "source" (field.source table)]

/-- The block of one table. -/
def tableBlock (table : String) (fields : List Field) : Block where
  name := "schema"
  attributes := [("table", table)]
  children := [{ name := "fields", children := fields.map (fieldBlock table) }]

/-- The document of one table of a schema. -/
def ofTable (schema : Schema) (table : String) : Except Failure Block :=
  match schema.table? table with
  | some entry => .ok (tableBlock table entry.fields)
  | none => .error (.unknownTable table)

/-- The document of all tables of a schema. -/
def combined (schema : Schema) : Block where
  name := "schemas"
  children := schema.tables.toList.map fun table => tableBlock table.name table.fields

end CollectionProfile.SchemaDocument
