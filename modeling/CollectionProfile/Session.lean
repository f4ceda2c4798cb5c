import CollectionProfile.Delivery.Artifact
import CollectionProfile.Profile.Reading

/-!
# Sessions

A session holds at most one schema. A successful load replaces it; a failed one leaves the session
as it was. Artifacts are made from the schema that is held.
-/

namespace CollectionProfile

/-- The schema that is held, if a profile has been loaded. -/
structure Session where
  schema? : Option Schema
deriving DecidableEq

/-- The text of a file, if its bytes are text. -/
def fileText (bytes : ByteArray) : Except FileFault String :=
  match String.fromUTF8? bytes with
  | some text => .ok text
  | none => .error .notText

namespace Session

/-- The session before any load. -/
def new : Session := ⟨none⟩

/-- Whether a profile has been loaded. -/
def isLoaded (session : Session) : Bool := session.schema?.isSome

/-- The schema that is held. -/
def schema (session : Session) : Except Failure Schema :=
  match session.schema? with
  | some schema => .ok schema
  | none => .error .noSchemaLoaded

/-- The session after an attempt to load a schema, and what the attempt gave. -/
def settle (session : Session) (attempt : Except Failure Schema) :
    Session × Except Failure Schema :=
  match attempt with
  | .ok schema => (⟨some schema⟩, .ok schema)
  | .error failure => (session, .error failure)

/-- Loads the profile in a text. -/
def load (session : Session) (text : String) : Session × Except Failure Schema :=
  session.settle (Schema.ofProfile text)

/-- Loads the profile in a file, given what reading the file gave. -/
def loadFile (session : Session) (file : Except FileFault ByteArray) :
    Session × Except Failure Schema :=
  match file >>= fileText with
  | .ok text => session.load text
  | .error fault => session.settle (.error (.file fault))

/-- The mapping of one table. -/
def mapping (session : Session) (table : String) (options : Mapping.Options) :
    Except Failure Artifact := do
  Artifact.mapping (← session.schema) table options

/-- The mappings of all tables, one by one. -/
def mappings (session : Session) (options : Mapping.Options) : Except Failure (List Artifact) := do
  Artifact.mappings (← session.schema) options

/-- The mapping of all tables in one. -/
def combinedMapping (session : Session) (convention : Mapping.Convention) :
    Except Failure Artifact := do
  return Artifact.combinedMapping (← session.schema) convention

/-- The schema document of one table. -/
def schemaDocument (session : Session) (table : String) : Except Failure Artifact := do
  Artifact.schemaDocument (← session.schema) table

/-- The schema documents of all tables, one by one. -/
def schemaDocuments (session : Session) : Except Failure (List Artifact) := do
  Artifact.schemaDocuments (← session.schema)

/-- The schema document of all tables in one. -/
def combinedSchemaDocument (session : Session) : Except Failure Artifact := do
  return Artifact.combinedSchemaDocument (← session.schema)

end Session

end CollectionProfile
