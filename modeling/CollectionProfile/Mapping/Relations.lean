import CollectionProfile.Mapping.Numbering
import CollectionProfile.Schema.Relationship

/-!
# Rows for relations

For a base table, the relationship types that touch it are grouped by the table on the other side,
in the order in which those tables are first met. Each group becomes a container row under the root,
an item row under the container, and a few fixed fields under the item.
-/

namespace CollectionProfile.Mapping

/-- The tables related to `base` in the order in which they are first met, each with the number of
relationship types that join the two. -/
def relatedTables (relationships : List Relationship) (base : String) : List (String × Nat) :=
  let others := (relationships.filter (·.touches base)).map (·.other base)
  others.eraseDups.map fun other => (other, others.count other)

/-- A field that stands under every relation item. -/
structure RelationField where
  code : String
  /-- What follows the two table names in the source path. -/
  path : String
  label : String
deriving DecidableEq, Repr

namespace RelationField

/-- The fields that every relation item carries. -/
def common : List RelationField :=
  [⟨"idno", "idno", "Identifiant"⟩, ⟨"name", "preferred_labels.name", "Nom"⟩,
    ⟨"relationship_type", "relationship_typename", "Type de relation"⟩]

/-- The field that only relations with the entities table carry. -/
def entityType : RelationField := ⟨"entity_type", "type_id", "Type d'entité"⟩

/-- The fields under the item of a relation with the table `other`. -/
def forTable (other : String) : List RelationField :=
  if other = entitiesTable then common ++ [entityType] else common

end RelationField

/-- The options cell of an item row: the item is repeated for each relation. -/
def arrayOption : String := "returnAsArray=true"

/-- The rows of the relations between `base` and `other`. -/
def groupRows (base other : String) (numbering : Numbering) : List Row × Numbering :=
  let (container, numbering) := numbering.take
  let (item, numbering) := numbering.take
  let (fields, numbering) := numbering.assign (RelationField.forTable other)
  let source := base ++ "." ++ other
  (.numbered container (some rootId) ("related_" ++ entityName other) "" ""
      ("Relations avec " ++ other)
    :: .numbered item (some container) (entityName other) source arrayOption
      "Élément répétable pour chaque relation"
    -- The fields hang under the item, not under its container.
    :: fields.map fun (field, id) =>
      .numbered id (some item) field.code (source ++ "." ++ field.path) "" field.label,
    numbering)

/-- The rows of the relations between `base` and each of the `others`, in order. -/
def groupsRows (base : String) : List String → Numbering → List Row × Numbering
  | [], numbering => ([], numbering)
  | other :: rest, numbering =>
    let (rows, numbering) := groupRows base other numbering
    let (more, numbering) := groupsRows base rest numbering
    (rows ++ more, numbering)

/-- The rows of all relations of `base`, numbered by a numbering that the caller goes on with. -/
def relationRows (relationships : List Relationship) (base : String) (numbering : Numbering) :
    List Row × Numbering :=
  groupsRows base ((relatedTables relationships base).map (·.1)) numbering

/-- The rows of all relations of `base`, numbered from `start`, and the number to go on with. -/
def compileRelations (relationships : List Relationship) (base : String) (start : Nat) :
    List Row × Nat :=
  let (rows, numbering) := relationRows relationships base (.startingAt start)
  (rows, numbering.next)

end CollectionProfile.Mapping
