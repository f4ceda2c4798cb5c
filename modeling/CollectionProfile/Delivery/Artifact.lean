import CollectionProfile.Delivery.Csv
import CollectionProfile.Delivery.SchemaDocument
import CollectionProfile.Mapping.Combined

/-!
# Artifacts

An artifact is one file to deliver: a mapping or a schema document, of one table or of all tables.
-/

namespace CollectionProfile

/-- What an artifact holds. -/
inductive ArtifactKind
  | mapping (table : String) (relations : Bool)
  /-- The mapping of all of some tables. -/
  | combinedMapping (tables : Nat)
  | schema (table : String)
  /-- The schema document of all of some tables. -/
  | combinedSchema (tables : Nat)
deriving DecidableEq, Repr, Inhabited

/-- A file to deliver. -/
structure Artifact where
  kind : ArtifactKind
  contents : String
  /-- The fields in it, and the relation rows where relations are included. -/
  elementCount : Nat
deriving DecidableEq, Repr, Inhabited

/-- The name of the file of an artifact. -/
def ArtifactKind.fileName : ArtifactKind → String
  | .mapping table relations =>
    "Data_Export_Mapping_" ++ table ++ (if relations then "_with_relations" else "") ++ ".csv"
  | .combinedMapping _ => "Data_Export_Mapping_ALL_TABLES.csv"
  | .schema table => "schema_" ++ table ++ ".xml"
  | .combinedSchema _ => "schema_ALL_TABLES.xml"

namespace Artifact

/-- The name of the file. -/
def fileName (artifact : Artifact) : String := artifact.kind.fileName

/-- The line that reports an artifact. -/
def description (artifact : Artifact) : String :=
  let count := toString artifact.elementCount
  match artifact.kind with
  | .mapping table relations =>
    "mapping for " ++ table ++ ": " ++ count ++ " elements"
      ++ if relations then " (relations included)" else ""
  | .combinedMapping tables =>
    "combined mapping: " ++ toString tables ++ " tables, " ++ count ++ " fields"
  | .schema table => "schema for " ++ table ++ ": " ++ count ++ " fields"
  | .combinedSchema tables =>
    "combined schema: " ++ toString tables ++ " tables, " ++ count ++ " fields"

/-- The contents without a byte-order mark at their start. -/
def text (artifact : Artifact) : String :=
  match artifact.contents.toList with
  | [] => ""
  | c :: rest => if c = Csv.byteOrderMark then String.ofList rest else artifact.contents

/-- Whether the contents start with a byte-order mark. -/
def hasByteOrderMark (artifact : Artifact) : Bool :=
  artifact.contents.toList.head? = some Csv.byteOrderMark

/-- The artifact of a compiled mapping. -/
def ofSheet (kind : ArtifactKind) (sheet : Mapping.Sheet) : Artifact where
  kind
  contents := String.ofList (Csv.render sheet)
  elementCount := sheet.elementCount

/-- The mapping of one table. -/
def mapping (schema : Schema) (table : String) (options : Mapping.Options) :
    Except Failure Artifact :=
  (Mapping.compileTable schema table options).map (ofSheet (.mapping table options.relations))

/-- The mappings of all tables, one by one. -/
def mappings (schema : Schema) (options : Mapping.Options) : Except Failure (List Artifact) :=
  schema.tables.names.mapM fun table => mapping schema table options

/-- The mapping of all tables in one. -/
def combinedMapping (schema : Schema) (convention : Mapping.Convention) : Artifact :=
  ofSheet (.combinedMapping schema.summary.tables) (Mapping.compileCombined schema convention)

/-- The schema document of one table. -/
def schemaDocument (schema : Schema) (table : String) : Except Failure Artifact :=
  (SchemaDocument.ofTable schema table).map fun block =>
    { kind := .schema table
      contents := String.ofList block.document
      elementCount := (schema.tables.fieldsOf table).length }

/-- The schema documents of all tables, one by one. -/
def schemaDocuments (schema : Schema) : Except Failure (List Artifact) :=
  schema.tables.names.mapM (schemaDocument schema)

/-- The schema document of all tables in one. -/
def combinedSchemaDocument (schema : Schema) : Artifact where
  kind := .combinedSchema schema.summary.tables
  contents := String.ofList (SchemaDocument.combined schema).document
  elementCount := schema.summary.fields

end Artifact

end CollectionProfile
