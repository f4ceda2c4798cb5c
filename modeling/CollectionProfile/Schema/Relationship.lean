import CollectionProfile.Text.Occurrence

/-!
# Relationship types

A relationship type joins a left and a right table, with one label for each direction. The tables it
joins are named by a pair name `left_x_right` (`Relationship.splitName?`).
-/

namespace CollectionProfile

/-- What every table name of the data model begins with. -/
def tableMark : String := "ca_"

/-- The table whose relations carry an extra type field. -/
def entitiesTable : String := "ca_entities"

/-- The name of a table with the first table mark in it removed. -/
def entityName (table : String) : String :=
  String.ofList (Text.withoutFirst tableMark.toList table.toList)

/-- A directed association between two tables, labelled in both directions. -/
structure Relationship where
  code : String
  left : String
  right : String
  /-- The label read from left to right. -/
  label : String
  /-- The label read from right to left. -/
  reverseLabel : String
deriving DecidableEq, Repr, Inhabited

namespace Relationship

/-- Whether the table is on either side. -/
def touches (relationship : Relationship) (table : String) : Bool :=
  relationship.left = table || relationship.right = table

/-- The table on the other side, as seen from `table`. -/
def other (relationship : Relationship) (table : String) : String :=
  if relationship.left = table then relationship.right else relationship.left

/-- What stands between the two halves of a pair name. -/
def joint : String := "_x_"

/-- The two halves of a pair name; nothing unless the joint cuts it into exactly two parts. -/
def splitName? (name : String) : Option (String × String) :=
  match Text.cut? joint.toList name.toList with
  | none => none
  | some (left, right) =>
    match Text.cut? joint.toList right with
    | none => some (String.ofList left, String.ofList right)
    | some _ => none

end Relationship

end CollectionProfile
