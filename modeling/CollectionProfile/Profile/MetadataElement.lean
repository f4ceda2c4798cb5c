import CollectionProfile.Profile.Offer
import CollectionProfile.Text.Blank

/-!
# Metadata elements

A `metadataElement` declares one field, with labels that hold a name and a description, and names
the tables it applies to under `typeRestrictions`. The two texts of a label are resolved slot by
slot.
-/

namespace CollectionProfile.MetadataElement

open Markup (Document Element)

/-- The name and the description that one label carries, or that several labels resolve to. -/
structure LabelSlots where
  name : Option String := none
  description : Option String := none
deriving DecidableEq, Repr, Inhabited

namespace LabelSlots

/-- Whether there is a name that is not empty. -/
def hasName (slots : LabelSlots) : Bool := slots.name.any (· ≠ "")

/-- The slots after one more label. A French label takes each slot it carries. An English label
takes its slots only while there is no name and it carries one itself. Other labels are passed
over. -/
def absorb (slots : LabelSlots) (rank : Locale.Rank) (label : LabelSlots) : LabelSlots :=
  let taken : LabelSlots :=
    { name := label.name.or slots.name, description := label.description.or slots.description }
  match rank with
  | .french => taken
  | .english => if !slots.hasName && label.name.isSome then taken else slots
  | .other => slots

/-- The slots that a label carries. -/
def ofLabel (label : Element) : LabelSlots where
  name := label.firstText? "name"
  description := label.firstText? "description"

end LabelSlots

/-- The places named `name` that belong to `owner` and stand right under an element named
`parent`. -/
def ownedUnder (owner : Element) (parent name : String) : List Element :=
  ((owner.ownedPlaces name).filter fun place =>
    (place.around.head?.getD owner).tag = parent).map (·.element)

/-- The labels of a metadata element. -/
def labels (element : Element) : List Element := ownedUnder element "labels" "label"

/-- The name and description that the labels of a metadata element resolve to. -/
def resolveLabels (element : Element) : LabelSlots :=
  (labels element).foldl (fun slots label =>
    slots.absorb (.ofTag (label.attribute? "locale")) (.ofLabel label)) {}

/-- The table that a restriction names, without blanks around it. -/
def restrictedTable? (restriction : Element) : Option String :=
  ((restriction.firstText? "table").map fun text =>
    String.ofList (Text.trimBlank text.toList)).filter (· ≠ "")

/-- The tables that a metadata element applies to. -/
def tables (element : Element) : List String :=
  (ownedUnder element "typeRestrictions" "restriction").filterMap restrictedTable?

/-- The field that a metadata element declares; none without a code. -/
def field? (element : Element) : Option Field :=
  (element.filled? "code").map fun code =>
    let slots := resolveLabels element
    .declare code (element.attributeText "datatype") (slots.name.getD "")
      (slots.description.getD "")

/-- The offers of all metadata elements of a document, one for each table an element applies to. -/
def offers (document : Document) : List Offer :=
  (document.placesNamed "metadataElement").flatMap fun place =>
    (tables place.element).map fun table => ⟨table, (field? place.element).toList⟩

end CollectionProfile.MetadataElement
