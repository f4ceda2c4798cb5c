import CollectionProfile.Command.Product
import CollectionProfile.Proofs.Delivery.Batch
import CollectionProfile.Session

/-!
# What requests come to

A request can be met unless it names a table that the schema lacks (`product_cases`). The files that
it gives are the artifacts of a session that holds the schema.
-/

namespace CollectionProfile

/-! ### Artifacts of tables -/

namespace Artifact

variable {schema : Schema} {name : String}

theorem exists_mapping {table : Table} (h : schema.table? name = some table)
    (options : Mapping.Options) : ∃ artifact, mapping schema name options = .ok artifact := by
  rw [mapping, Mapping.compileTable, h]
  exact ⟨_, rfl⟩

theorem mapping_of_unknown (h : schema.table? name = none) (options : Mapping.Options) :
    mapping schema name options = .error (.unknownTable name) := by
  rw [mapping, Mapping.compileTable, h]
  rfl

theorem exists_document {table : Table} (h : schema.table? name = some table) :
    ∃ artifact, schemaDocument schema name = .ok artifact := by
  rw [schemaDocument, SchemaDocument.ofTable, h]
  exact ⟨_, rfl⟩

theorem document_of_unknown (h : schema.table? name = none) :
    schemaDocument schema name = .error (.unknownTable name) := by
  rw [schemaDocument, SchemaDocument.ofTable, h]
  rfl

end Artifact

namespace Command

/-- The one table that a request is about, if it names one. -/
def Request.table? : Request → Option String
  | .fields name _ => some name
  | .mapping (.table name) _ _ => some name
  | .schema (.table name) _ => some name
  | _ => none

/-- The directory that a request delivers to. -/
def Request.directory : Request → String
  | .mapping _ _ directory => directory
  | .schema _ directory => directory
  | _ => ""

/-- The artifacts that a request selects, as a session gives them. -/
def Request.artifacts (session : Session) : Request → Except Failure (List Artifact)
  | .mapping (.table name) options _ => (session.mapping name options).map ([·])
  | .mapping .all options _ => session.mappings options
  | .mapping .combined options _ => (session.combinedMapping options.convention).map ([·])
  | .schema (.table name) _ => (session.schemaDocument name).map ([·])
  | .schema .all _ => session.schemaDocuments
  | .schema .combined _ => session.combinedSchemaDocument.map ([·])
  | _ => .ok []

/-- The request names a table that the schema does not have. -/
def Request.Misses (request : Request) (schema : Schema) : Prop :=
  ∃ name, request.table? = some name ∧ schema.table? name = none

variable {request : Request} {schema : Schema}

/-- Without a schema there is nothing to deliver. -/
theorem artifacts_new {artifacts : List Artifact} (h : request.artifacts .new = .ok artifacts) :
    artifacts = [] := by
  cases request with
  | mapping selection options directory => cases selection <;> cases h
  | schema selection directory => cases selection <;> cases h
  | _ => exact (Except.ok.inj h).symm

theorem artifacts_of_misses (hmisses : request.Misses schema) {artifacts : List Artifact}
    (h : request.artifacts ⟨some schema⟩ = .ok artifacts) : artifacts = [] := by
  obtain ⟨name, htable, hunknown⟩ := hmisses
  cases request with
  | mapping selection options directory =>
    cases selection with
    | table other =>
      obtain rfl := Option.some.inj htable
      have h : (Artifact.mapping schema other options).map ([·]) = .ok artifacts := h
      rw [Artifact.mapping_of_unknown hunknown] at h
      cases h
    | _ => cases htable
  | schema selection directory =>
    cases selection with
    | table other =>
      obtain rfl := Option.some.inj htable
      have h : (Artifact.schemaDocument schema other).map ([·]) = .ok artifacts := h
      rw [Artifact.document_of_unknown hunknown] at h
      cases h
    | _ => cases htable
  | _ => exact (Except.ok.inj h).symm

theorem product_of_misses (profile : String) (hmisses : request.Misses schema) :
    ∃ name, request.product profile schema = .error (.unknownTable name) := by
  obtain ⟨name, htable, hunknown⟩ := hmisses
  refine ⟨name, ?_⟩
  cases request with
  | fields other asJson =>
    obtain rfl := Option.some.inj htable
    rw [Request.product, hunknown]
  | mapping selection options directory =>
    cases selection with
    | table other =>
      obtain rfl := Option.some.inj htable
      rw [Request.product, Selection.mappings, Artifact.mapping_of_unknown hunknown]
      rfl
    | _ => cases htable
  | schema selection directory =>
    cases selection with
    | table other =>
      obtain rfl := Option.some.inj htable
      rw [Request.product, Selection.schemaDocuments, Artifact.document_of_unknown hunknown]
      rfl
    | _ => cases htable
  | _ => cases htable

section Selection

variable {selection : Selection}
  (hknown : ∀ name, selection = .table name → ∃ table, schema.table? name = some table)

include hknown

theorem exists_mappings (options : Mapping.Options) :
    ∃ artifacts, selection.mappings schema options = .ok artifacts := by
  cases selection with
  | table name =>
    obtain ⟨table, htable⟩ := hknown name rfl
    obtain ⟨artifact, hartifact⟩ := Artifact.exists_mapping htable options
    rw [Selection.mappings, hartifact]
    exact ⟨_, rfl⟩
  | all => exact ⟨_, Artifact.mappings_eq schema options⟩
  | combined => exact ⟨_, rfl⟩

theorem exists_documents : ∃ artifacts, selection.schemaDocuments schema = .ok artifacts := by
  cases selection with
  | table name =>
    obtain ⟨table, htable⟩ := hknown name rfl
    obtain ⟨artifact, hartifact⟩ := Artifact.exists_document htable
    rw [Selection.schemaDocuments, hartifact]
    exact ⟨_, rfl⟩
  | all => exact ⟨_, Artifact.schemaDocuments_eq schema⟩
  | combined => exact ⟨_, rfl⟩

end Selection

/-- A request that misses no table gives a text, or the artifacts that a session gives. -/
theorem product_cases (profile : String) (hmisses : ¬ request.Misses schema) :
    (∃ text, request.product profile schema = .ok (.screen text) ∧
      request.artifacts ⟨some schema⟩ = .ok []) ∨
    ∃ artifacts, request.product profile schema = .ok (.files request.directory artifacts) ∧
      request.artifacts ⟨some schema⟩ = .ok artifacts := by
  have hknown : ∀ name, request.table? = some name → ∃ table, schema.table? name = some table := by
    intro name hname
    by_contra hnone
    rw [← Option.ne_none_iff_exists', not_not] at hnone
    exact hmisses ⟨name, hname, hnone⟩
  cases request with
  | fields name asJson =>
    obtain ⟨table, htable⟩ := hknown name rfl
    rw [Request.product, htable]
    exact .inl ⟨_, rfl, rfl⟩
  | mapping selection options directory =>
    have hselected : ∀ name, selection = .table name →
        ∃ table, schema.table? name = some table := by
      rintro name rfl
      exact hknown name rfl
    obtain ⟨artifacts, hartifacts⟩ := exists_mappings hselected options
    rw [Request.product, hartifacts]
    refine .inr ⟨artifacts, rfl, ?_⟩
    cases selection with
    | _ => exact hartifacts
  | schema selection directory =>
    have hselected : ∀ name, selection = .table name →
        ∃ table, schema.table? name = some table := by
      rintro name rfl
      exact hknown name rfl
    obtain ⟨artifacts, hartifacts⟩ := exists_documents hselected
    rw [Request.product, hartifacts]
    refine .inr ⟨artifacts, rfl, ?_⟩
    cases selection with
    | _ => exact hartifacts
  | _ => exact .inl ⟨_, rfl, rfl⟩

end Command

end CollectionProfile
