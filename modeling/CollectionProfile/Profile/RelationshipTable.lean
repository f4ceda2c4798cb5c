import CollectionProfile.Locale
import CollectionProfile.Markup.Place
import CollectionProfile.Schema.Relationship

/-!
# Relationship tables

A `relationshipTable` names the two tables it joins by a pair name and holds relationship types,
whose labels are given for each direction.
-/

namespace CollectionProfile.RelationshipTable

open Markup (Document Element)

/-- The label of one direction of a type: the first text in a known locale, or else the code. -/
def directionLabel (type : Element) (direction : String) : String :=
  let candidates := (type.owned "label").map fun label =>
    (⟨label.attribute? "locale", (label.firstText? direction).getD ""⟩ : Locale.Candidate String)
  (Locale.firstKnownText candidates).getD (type.attributeText "code")

/-- The relationship type that a `type` declares between two tables. -/
def relationship (left right : String) (type : Element) : Relationship where
  code := type.attributeText "code"
  left
  right
  label := directionLabel type "typename"
  reverseLabel := directionLabel type "typename_reverse"

/-- The relationship types of one relationship table; none unless its name is a pair name. -/
def ofContainer (container : Element) : List Relationship :=
  match Relationship.splitName? (container.attributeText "name") with
  | some (left, right) =>
    (container.descendants "type").map (relationship (tableMark ++ left) (tableMark ++ right))
  | none => []

/-- The relationship types of a document. -/
def relationships (document : Document) : List Relationship :=
  (document.placesNamed "relationshipTable").flatMap fun place => ofContainer place.element

end CollectionProfile.RelationshipTable
