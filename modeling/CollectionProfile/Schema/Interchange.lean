import CollectionProfile.Json.Basic
import CollectionProfile.Schema.Basic

/-!
# Schemas as JSON

The interchange form of a schema and of its parts, and how a schema is read back from it.
-/

namespace CollectionProfile

/-- The interchange form of a field. -/
def Field.toJson (field : Field) : Json :=
  .object [("code", .string field.code), ("datatype", .string field.datatype),
    ("label", .string field.label), ("description", .string field.description)]

/-- The field with the given interchange form. -/
def Field.ofJson? (json : Json) : Option Field := do
  return ⟨← json.text? "code", ← json.text? "datatype", ← json.text? "label",
    ← json.text? "description"⟩

/-- The interchange form of a summary. -/
def Summary.toJson (summary : Summary) : Json :=
  .object [("total_tables", .number summary.tables), ("total_fields", .number summary.fields),
    ("total_relationships", .number summary.relationships), ("total_types", .number summary.types),
    ("total_lists", .number summary.lists)]

/-- The interchange form of a table. -/
def Table.toJson (table : Table) : Json :=
  .object [("name", .string table.name), ("fields", .array (table.fields.map Field.toJson))]

/-- The table with the given interchange form. -/
def Table.ofJson? (json : Json) : Option Table := do
  return ⟨← json.text? "name", ← (← (← json.member? "fields").items?).mapM Field.ofJson?⟩

/-- The interchange form of a relationship type. -/
def Relationship.toJson (relationship : Relationship) : Json :=
  .object [("code", .string relationship.code), ("left_table", .string relationship.left),
    ("right_table", .string relationship.right), ("label_left", .string relationship.label),
    ("label_right", .string relationship.reverseLabel)]

/-- The relationship type with the given interchange form. -/
def Relationship.ofJson? (json : Json) : Option Relationship := do
  return ⟨← json.text? "code", ← json.text? "left_table", ← json.text? "right_table",
    ← json.text? "label_left", ← json.text? "label_right"⟩

/-- The interchange form of a record type. -/
def RecordType.toJson (type : RecordType) : Json :=
  .object [("table", .string type.table), ("code", .string type.code), ("name", .string type.name),
    ("parent", .string type.parent)]

/-- The record type with the given interchange form. -/
def RecordType.ofJson? (json : Json) : Option RecordType := do
  return ⟨← json.text? "table", ← json.text? "code", ← json.text? "name", ← json.text? "parent"⟩

/-- The interchange form of a list entry. -/
def ListEntry.toJson (entry : ListEntry) : Json :=
  .object [("list", .string entry.list), ("code", .string entry.code),
    ("label", .string entry.label)]

/-- The list entry with the given interchange form. -/
def ListEntry.ofJson? (json : Json) : Option ListEntry := do
  return ⟨← json.text? "list", ← json.text? "code", ← json.text? "label"⟩

namespace Schema

/-- The interchange form of a schema. Its tables are the members of one object. -/
def toJson (schema : Schema) : Json :=
  .object [("tables", .object (schema.tables.toList.map fun table => (table.name, table.toJson))),
    ("relationship_types", .array (schema.relationships.map Relationship.toJson)),
    ("types", .array (schema.vocabulary.types.map RecordType.toJson)),
    ("lists", .array (schema.vocabulary.entries.map ListEntry.toJson)),
    ("list_count", .number schema.vocabulary.listCount)]

/-- The schema with the given interchange form. -/
def ofJson? (json : Json) : Option Schema := do
  let tables ← (← (← json.member? "tables").members?).mapM fun member => Table.ofJson? member.2
  return {
    tables := tables.foldl Tables.put .empty
    relationships := ← (← (← json.member? "relationship_types").items?).mapM Relationship.ofJson?
    vocabulary :=
      { types := ← (← (← json.member? "types").items?).mapM RecordType.ofJson?
        entries := ← (← (← json.member? "lists").items?).mapM ListEntry.ofJson?
        listCount := ← (← json.member? "list_count").number? } }

end Schema

end CollectionProfile
