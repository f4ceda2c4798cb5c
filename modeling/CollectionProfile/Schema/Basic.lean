import CollectionProfile.Schema.Tables
import CollectionProfile.Schema.Relationship

/-!
# Schemas

The model of one profile: its tables, the relationship types between them, and its vocabulary of
record types and list entries.
-/

namespace CollectionProfile

/-- A record type that a profile declares. -/
structure RecordType where
  /-- The name of the element that holds the declaration. -/
  table : String
  code : String
  name : String
  parent : String
deriving DecidableEq, Repr, Inhabited

/-- One entry of a vocabulary list. -/
structure ListEntry where
  list : String
  code : String
  label : String
deriving DecidableEq, Repr, Inhabited

/-- The record types and list entries of a profile. -/
structure Vocabulary where
  types : List RecordType := []
  entries : List ListEntry := []
  /-- The number of lists, those without entries included. -/
  listCount : Nat := 0
deriving DecidableEq, Repr, Inhabited

/-- The counts shown after a profile was read. -/
structure Summary where
  tables : Nat
  fields : Nat
  relationships : Nat
  types : Nat
  lists : Nat
deriving DecidableEq, Repr, Inhabited

/-- The merged model of one profile. -/
structure Schema where
  tables : Tables
  relationships : List Relationship
  vocabulary : Vocabulary
deriving DecidableEq

namespace Schema

/-- The schema without tables. -/
def empty : Schema := ⟨.empty, [], {}⟩

/-- The table of this name. -/
def table? (schema : Schema) (name : String) : Option Table := schema.tables.find? name

/-- The counts of a schema. -/
def summary (schema : Schema) : Summary where
  tables := schema.tables.toList.length
  fields := schema.tables.fieldCount
  relationships := schema.relationships.length
  types := schema.vocabulary.types.length
  lists := schema.vocabulary.listCount

end Schema

end CollectionProfile
