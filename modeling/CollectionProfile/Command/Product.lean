import CollectionProfile.Command.Invocation
import CollectionProfile.Command.Screen
import CollectionProfile.Log.Delivering

/-!
# Products

What a request makes of a schema: a text to print, or files to deliver to a directory. Nothing here
depends on the machine, so whether a request can be met is known before anything is written.
-/

namespace CollectionProfile.Command

/-- What a request gives. -/
inductive Product
  /-- A text for standard output. -/
  | screen (text : String)
  /-- Files to write to a directory. -/
  | files (directory : String) (artifacts : List Artifact)
deriving DecidableEq, Repr, Inhabited

namespace Selection

/-- The mappings of the selected tables. Relations are left out of the mapping of all tables in
one. -/
def mappings (schema : Schema) (options : Mapping.Options) :
    Selection → Except Failure (List Artifact)
  | .table name => (Artifact.mapping schema name options).map ([·])
  | .all => Artifact.mappings schema options
  | .combined => .ok [Artifact.combinedMapping schema options.convention]

/-- The schema documents of the selected tables. -/
def schemaDocuments (schema : Schema) : Selection → Except Failure (List Artifact)
  | .table name => (Artifact.schemaDocument schema name).map ([·])
  | .all => Artifact.schemaDocuments schema
  | .combined => .ok [Artifact.combinedSchemaDocument schema]

/-- The events of making the mappings of the selected tables. -/
def mappingEvents (schema : Schema) (options : Mapping.Options) : Selection → List Log.Event
  | .table name => Log.mappingEvents schema options name
  | .all => schema.tables.names.flatMap (Log.mappingEvents schema options)
  | .combined => [Log.combinedMappingEvent schema]

end Selection

namespace Request

/-- What a request gives, given the path of the profile and the schema made of it. -/
def product (request : Request) (profile : String) (schema : Schema) : Except Failure Product :=
  match request with
  | .summary asJson =>
    .ok (.screen (if asJson then Screen.ofJson schema.summary.toJson
      else Screen.summary profile schema.summary))
  | .tables => .ok (.screen (Screen.tables schema))
  | .fields name asJson =>
    match schema.table? name with
    | some table =>
      .ok (.screen (if asJson then Screen.ofJson (.array (table.fields.map Field.toJson))
        else Screen.fields table))
    | none => .error (.unknownTable name)
  | .relations => .ok (.screen (Screen.relations schema.relationships))
  | .mapping selection options directory =>
    (selection.mappings schema options).map (.files directory)
  | .schema selection directory => (selection.schemaDocuments schema).map (.files directory)

/-- The span in which the work of a request stands. -/
def span? : Request → Option Log.Span
  | .mapping _ options _ => some (Log.mappingSpan options.convention)
  | .schema .. => some Log.schemaSpan
  | _ => none

/-- The span in which artifacts are made where there is one for each table. -/
def batchSpan? : Request → Option Log.Span
  | .mapping .all options _ => some (Log.mappingsSpan options.convention)
  | .schema .all _ => some Log.schemasSpan
  | _ => none

/-- The events of making what a request gives. -/
def events (request : Request) (schema : Schema) : List Log.Event :=
  match request with
  | .mapping selection options _ => selection.mappingEvents schema options
  | _ => []

end Request

end CollectionProfile.Command
