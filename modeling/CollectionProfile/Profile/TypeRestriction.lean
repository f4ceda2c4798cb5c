import CollectionProfile.Profile.Offer

/-!
# Type restrictions

A `typeRestriction` marker names a table; the field it offers to that table is described by the
element right around the marker.
-/

namespace CollectionProfile.TypeRestriction

open Markup (Document Element Place)

/-- The field that the element around a marker describes; none without a code. -/
def field? (parent : Element) : Option Field :=
  (parent.filled? "code").map fun code =>
    .declare code (parent.attributeText "datatype")
      (Locale.resolveText .firstSeen (localized parent "label")) ""

/-- The offer of one marker; none unless it names a table. -/
def offer? (marker : Place) : Option Offer :=
  (marker.element.filled? "type").map fun table =>
    ⟨table, (marker.around.head?.bind field?).toList⟩

/-- The offers of all markers of a document. -/
def offers (document : Document) : List Offer :=
  (document.placesNamed "typeRestriction").filterMap offer?

end CollectionProfile.TypeRestriction
