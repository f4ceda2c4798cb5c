import CollectionProfile.Profile.Offer

/-!
# Element sets

An `elementSet` names a table by its code and holds the table's fields as `element`s, whose labels
and descriptions are flat and carry a locale each.
-/

namespace CollectionProfile.ElementSet

open Markup (Document Element)

/-- The field that an `element` declares; none without a code. -/
def field? (element : Element) : Option Field :=
  (element.filled? "code").map fun code =>
    .declare code (element.attributeText "datatype")
      (Locale.resolveText .firstSeen (localized element "label"))
      (Locale.resolveText .firstSeen (localized element "description"))

/-- The offer of one set; none without a code. -/
def offer? (set : Element) : Option Offer :=
  (set.filled? "code").map fun table => ⟨table, (set.descendants "element").filterMap field?⟩

/-- The offers of all sets of a document. -/
def offers (document : Document) : List Offer :=
  (document.placesNamed "elementSet").filterMap fun place => offer? place.element

end CollectionProfile.ElementSet
