import CollectionProfile.Failure
import CollectionProfile.Markup.Document
import CollectionProfile.Profile.Assembly
import CollectionProfile.Profile.ElementSet
import CollectionProfile.Profile.MetadataElement
import CollectionProfile.Profile.RelationshipTable
import CollectionProfile.Profile.TypeRestriction
import CollectionProfile.Profile.Vocabulary

/-!
# Reading a profile

From the text of a profile to its schema. A text that is not a well-formed document is refused as a
whole; whatever is missing inside a well-formed one is made up for by defaults.
-/

namespace CollectionProfile

open Markup (Document)

/-- What each dialect offers in a document. -/
def extractions (document : Document) : List Extraction :=
  [⟨.elementSet, ElementSet.offers document⟩, ⟨.metadataElement, MetadataElement.offers document⟩,
    ⟨.typeRestriction, TypeRestriction.offers document⟩]

namespace Schema

/-- The schema of a document. -/
def ofDocument (document : Document) : Schema :=
  assemble (extractions document) (RelationshipTable.relationships document) (.ofDocument document)

/-- The document of a profile. -/
def documentOf (text : String) : Except Failure Document :=
  (Document.ofText text).mapError .malformedSource

/-- The schema of a profile. -/
def ofProfile (text : String) : Except Failure Schema := (documentOf text).map ofDocument

end Schema

end CollectionProfile
