import CollectionProfile.Locale
import CollectionProfile.Markup.Place
import CollectionProfile.Schema.Field

/-!
# What a profile offers

A profile declares the fields of tables in three dialects. Reading one dialect yields offers, each
of a run of fields to a table; nothing is merged yet.
-/

namespace CollectionProfile

open Markup (Element)

/-- The ways of declaring fields, the one that prevails first. -/
inductive Dialect
  /-- Sets of elements, one set to a table. -/
  | elementSet
  /-- Elements that name the tables they apply to. -/
  | metadataElement
  /-- Markers inside an element, one marker to a table. -/
  | typeRestriction
deriving DecidableEq, Repr, Inhabited

namespace Dialect

/-- All dialects, the one that prevails first. -/
def all : List Dialect := [.elementSet, .metadataElement, .typeRestriction]

/-- The name of the elements that a dialect is built on. -/
def name : Dialect → String
  | .elementSet => "elementSet"
  | .metadataElement => "metadataElement"
  | .typeRestriction => "typeRestriction"

/-- The place of a dialect in the order of precedence. -/
def precedence : Dialect → Nat
  | .elementSet => 0
  | .metadataElement => 1
  | .typeRestriction => 2

end Dialect

/-- Fields that a profile offers to a table. Without fields an offer still makes the table exist. -/
structure Offer where
  table : String
  fields : List Field
deriving DecidableEq, Repr, Inhabited

/-- All offers of one dialect, in document order. -/
structure Extraction where
  dialect : Dialect
  offers : List Offer
deriving DecidableEq, Repr, Inhabited

/-- The number of fields offered, repeated ones included. -/
def Extraction.fieldCount (extraction : Extraction) : Nat :=
  (extraction.offers.flatMap (·.fields)).length

/-- The texts of the elements of a name that belong to `element`, with their locales. -/
def localized (element : Element) (name : String) : List (Locale.Candidate String) :=
  (element.owned name).map fun found => ⟨found.attribute? "locale", found.text⟩

end CollectionProfile
