import CollectionProfile.Delivery.Artifact
import CollectionProfile.Proofs.Delivery.Agreement

/-!
# What is made of all tables

An operation on all tables does to each what the operation on one table does, and never fails
(`batchesAgree`). The counts that are reported are taken in different places: from the rows of a
sheet, from the fields of a table, from the summary of the schema. `countsAgree` says that they come
to the same.
-/

namespace CollectionProfile

/-- What an operation has made of the tables of a schema, one result for each, in strictly ascending
order of their names. -/
structure IsBatch {α : Type} (schema : Schema) (made : String → α → Prop) (batch : List α) :
    Prop where
  ascending : schema.tables.names.Pairwise (· < ·)
  each : List.Forall₂ made schema.tables.names batch

/-- The operations on all tables of a schema come to these results, each that of one table. -/
structure BatchesAgree (schema : Schema) (options : Mapping.Options)
    (sheets : List (String × Mapping.Sheet)) (mappings documents : List Artifact) : Prop where
  compiled : Mapping.compileAll schema options = .ok sheets
  mapped : Artifact.mappings schema options = .ok mappings
  documented : Artifact.schemaDocuments schema = .ok documents
  sheet : IsBatch schema (fun name entry => entry.1 = name ∧
    Mapping.compileTable schema name options = .ok entry.2) sheets
  mapping : IsBatch schema (fun name artifact =>
    Artifact.mapping schema name options = .ok artifact) mappings
  document : IsBatch schema (fun name artifact =>
    Artifact.schemaDocument schema name = .ok artifact) documents

/-- The count that is reported for artifacts together. -/
def elementSum (artifacts : List Artifact) : Nat := (artifacts.map (·.elementCount)).sum

/-- The counts that are reported for the artifacts of a schema. -/
structure CountsAgree (schema : Schema) : Prop where
  /-- A mapping counts the rules of its sheet, without the root. -/
  rules : ∀ name options artifact, Artifact.mapping schema name options = .ok artifact →
    ∃ sheet, Mapping.compileTable schema name options = .ok sheet ∧
      artifact.elementCount + 1 = sheet.mappingRows.length
  schemaDocuments : ∀ artifacts, Artifact.schemaDocuments schema = .ok artifacts →
    elementSum artifacts = schema.summary.fields
  mappings : ∀ convention artifacts, Artifact.mappings schema ⟨convention, false⟩ = .ok artifacts →
    elementSum artifacts = schema.summary.fields
  combinedMapping : ∀ convention,
    (Artifact.combinedMapping schema convention).elementCount = schema.summary.fields
  combinedSchemaDocument :
    (Artifact.combinedSchemaDocument schema).elementCount = schema.summary.fields

variable {schema : Schema}

/-! ### Table after table -/

theorem mapM_names {α : Type} {f : String → Except Failure α} {make : Table → α}
    (h : ∀ table ∈ schema.tables.toList, f table.name = .ok (make table)) :
    schema.tables.names.mapM f = .ok (schema.tables.toList.map make) := by
  rw [Tables.names, List.mapM_map]
  exact mapM_ok_of_forall h

theorem isBatch_map {α : Type} {made : String → α → Prop} {make : Table → α}
    (h : ∀ table ∈ schema.tables.toList, made table.name (make table)) :
    IsBatch schema made (schema.tables.toList.map make) := by
  refine ⟨List.pairwise_map.2 schema.tables.ascending, ?_⟩
  rw [Tables.names, List.forall₂_map_left_iff, List.forall₂_map_right_iff]
  exact List.forall₂_same.2 h

theorem elementSum_map {make : Table → Artifact}
    (h : ∀ table, (make table).elementCount = table.fields.length) :
    elementSum (schema.tables.toList.map make) = schema.summary.fields := by
  have hcounts : (schema.tables.toList.map make).map (·.elementCount)
      = schema.tables.toList.map (·.fields.length) := by
    rw [List.map_map]
    exact List.map_congr_left fun table _ => h table
  rw [elementSum, hcounts]
  exact List.length_flatMap.symm

namespace Artifact

/-- The mapping of a table of a schema. -/
def ofMapping (schema : Schema) (options : Mapping.Options) (table : Table) : Artifact :=
  ofSheet (.mapping table.name options.relations)
    (Mapping.compileFields table.name table.fields schema.relationships options)

/-- The schema document of a table. -/
def ofDocument (table : Table) : Artifact where
  kind := .schema table.name
  contents := String.ofList (SchemaDocument.tableBlock table.name table.fields).document
  elementCount := table.fields.length

end Artifact

theorem Mapping.compileTable_of_mem {table : Table} (h : table ∈ schema.tables.toList)
    (options : Mapping.Options) : compileTable schema table.name options
      = .ok (compileFields table.name table.fields schema.relationships options) := by
  rw [compileTable, Schema.table?, Tables.find?_eq_some_iff.2 ⟨h, rfl⟩]

theorem Artifact.mapping_of_mem {table : Table} (h : table ∈ schema.tables.toList)
    (options : Mapping.Options) :
    mapping schema table.name options = .ok (ofMapping schema options table) := by
  rw [mapping, Mapping.compileTable_of_mem h]
  rfl

theorem Artifact.schemaDocument_of_mem {table : Table} (h : table ∈ schema.tables.toList) :
    schemaDocument schema table.name = .ok (ofDocument table) := by
  rw [schemaDocument, SchemaDocument.ofTable_of_mem h, Tables.fieldsOf_of_mem h]
  rfl

theorem Artifact.mappings_eq (schema : Schema) (options : Mapping.Options) :
    mappings schema options = .ok (schema.tables.toList.map (ofMapping schema options)) :=
  mapM_names fun _ h => mapping_of_mem h options

theorem Artifact.schemaDocuments_eq (schema : Schema) :
    schemaDocuments schema = .ok (schema.tables.toList.map ofDocument) :=
  mapM_names fun _ h => schemaDocument_of_mem h

theorem Mapping.compileAll_eq (schema : Schema) (options : Mapping.Options) :
    compileAll schema options = .ok (schema.tables.toList.map fun table =>
      (table.name, compileFields table.name table.fields schema.relationships options)) := by
  refine mapM_names fun table h => ?_
  rw [compileTable_of_mem h]
  rfl

theorem batchesAgree (schema : Schema) (options : Mapping.Options) :
    BatchesAgree schema options
      (schema.tables.toList.map fun table => (table.name,
        Mapping.compileFields table.name table.fields schema.relationships options))
      (schema.tables.toList.map (Artifact.ofMapping schema options))
      (schema.tables.toList.map Artifact.ofDocument) where
  compiled := Mapping.compileAll_eq schema options
  mapped := Artifact.mappings_eq schema options
  documented := Artifact.schemaDocuments_eq schema
  sheet := isBatch_map fun _ h => ⟨rfl, Mapping.compileTable_of_mem h options⟩
  mapping := isBatch_map fun _ h => Artifact.mapping_of_mem h options
  document := isBatch_map fun _ h => Artifact.schemaDocument_of_mem h

/-! ### Counts -/

theorem Mapping.elementCount_compileFields (table : String) (fields : List Field)
    (relationships : List Relationship) (options : Options) :
    (compileFields table fields relationships options).elementCount + 1
      = (compileFields table fields relationships options).mappingRows.length := by
  rw [mappingRows_compileFields, length_rulesOf, Sheet.elementCount, relationRows_compileFields,
    Nat.add_assoc 1, Nat.add_comm 1]
  rfl

theorem Artifact.elementCount_ofMapping {options : Mapping.Options}
    (hrelations : options.relations = false) (table : Table) :
    (ofMapping schema options table).elementCount = table.fields.length := by
  show table.fields.length + (Mapping.relationsOf _ _ _ options).length = _
  rw [Mapping.relationsOf, hrelations]
  rfl

theorem countsAgree (schema : Schema) : CountsAgree schema := by
  constructor
  case rules =>
    intro name options artifact h
    cases htable : schema.table? name with
    | none =>
      rw [Artifact.mapping, Mapping.compileTable, htable] at h
      cases h
    | some table =>
      obtain ⟨hmem, rfl⟩ := Tables.find?_eq_some_iff.1 htable
      obtain rfl := Except.ok.inj ((Artifact.mapping_of_mem hmem options).symm.trans h)
      exact ⟨_, Mapping.compileTable_of_mem hmem options,
        Mapping.elementCount_compileFields _ _ _ options⟩
  case schemaDocuments =>
    intro artifacts h
    obtain rfl := Except.ok.inj ((Artifact.schemaDocuments_eq schema).symm.trans h)
    exact elementSum_map fun _ => rfl
  case mappings =>
    intro convention artifacts h
    obtain rfl := Except.ok.inj ((Artifact.mappings_eq schema _).symm.trans h)
    exact elementSum_map fun table => Artifact.elementCount_ofMapping rfl table
  case combinedMapping => exact fun _ => Tables.fieldCount_keyed schema.tables
  case combinedSchemaDocument => rfl

end CollectionProfile
