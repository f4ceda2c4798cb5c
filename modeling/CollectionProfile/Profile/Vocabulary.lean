import CollectionProfile.Markup.Place
import CollectionProfile.Schema.Basic

/-!
# The vocabulary of a profile

The record types and list entries that a document declares.
-/

namespace CollectionProfile.Vocabulary

open Markup (Document Element Place)

/-- The label of an entry: the text of the first `label` below it. -/
def label (entry : Element) : String := (entry.firstText? "label").getD ""

/-- The record type that a `type` declares. -/
def recordType (place : Place) : RecordType where
  table := (place.around.head?.map (·.tag)).getD ""
  code := place.element.attributeText "code"
  name := label place.element
  parent := place.element.attributeText "parent"

/-- The list entry that an `item` declares. Its code is the number it carries, if that is not
empty. -/
def entry (list : String) (item : Element) : ListEntry where
  list
  code := (item.filled? "idno").getD (item.attributeText "code")
  label := label item

/-- The entries of one `list`. -/
def listEntries (list : Element) : List ListEntry :=
  (list.descendants "item").map (entry (list.attributeText "code"))

/-- The vocabulary of a document. -/
def ofDocument (document : Document) : Vocabulary :=
  let lists := document.placesNamed "list"
  { types := (document.placesNamed "type").map recordType
    entries := lists.flatMap fun place => listEntries place.element
    listCount := lists.length }

end CollectionProfile.Vocabulary
