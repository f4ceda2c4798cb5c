import CollectionProfile.Failure
import CollectionProfile.Log.Event
import CollectionProfile.Profile.Reading

/-!
# What reading a profile logs

The events that tell how a profile was read, in the order in which its parts are dealt with.
-/

namespace CollectionProfile.Log

open Markup (Document)

/-- The span of the reading of a profile. -/
def readingSpan (byteCount : Nat) : Span where
  name := "parse_profile"
  target := "profile_ingest::loader"
  fields := [("bytes", .number byteCount)]

/-- A profile file was read. -/
def profileRead (path : String) : Event where
  level := .info
  target := "profile_ingest::loader"
  message := "reading profile"
  fields := [("path", .plain path)]

/-- A profile was refused. -/
def profileRejected (failure : Failure) : Event where
  level := .warn
  target := "profile_ingest::loader"
  message := "profile rejected"
  fields := [("error", .plain failure.message)]

/-- A schema was made of a profile. -/
def profileLoaded (summary : Summary) (elapsed : String) : Event where
  level := .info
  target := "profile_ingest::loader"
  message := "profile loaded"
  fields := [("tables", .number summary.tables), ("fields", .number summary.fields),
    ("relationships", .number summary.relationships), ("types", .number summary.types),
    ("lists", .number summary.lists), ("duration_ms", .plain elapsed)]

/-- An event for those who look for faults in a profile. -/
def detail (target message : String) (fields : List NamedField) : Event :=
  { level := .debug, target, message, fields }

/-- The events of the element sets of a document. -/
def elementSetEvents (document : Document) : List Event :=
  let event := detail "profile_ingest::dialects::element_set"
  (document.placesNamed "elementSet").flatMap fun place =>
    match ElementSet.offer? place.element with
    | none => [event "skipping elementSet without table code" []]
    | some offer =>
      let nameless := (place.element.descendants "element").filter fun element =>
        (ElementSet.field? element).isNone
      (nameless.map fun _ => event "skipping element without code" [])
        ++ [event "extracted elementSet"
          [("table", .quoted offer.table), ("field_count", .number offer.fields.length)]]

/-- The events of the metadata elements of a document. -/
def metadataElementEvents (document : Document) : List Event :=
  let event := detail "profile_ingest::dialects::metadata_element"
  (document.placesNamed "metadataElement").flatMap fun place =>
    let code := place.element.attributeText "code"
    (if code = "" then
      [event "metadataElement without code; only its tables are registered" []] else [])
      ++ [event "extracted metadataElement" [("code", .plain code),
        ("table_count", .number (MetadataElement.tables place.element).length)]]

/-- The events of the type restrictions of a document. -/
def typeRestrictionEvents (document : Document) : List Event :=
  (TypeRestriction.offers document).flatMap fun offer => offer.fields.map fun field =>
    detail "profile_ingest::dialects::restriction" "field derived from typeRestriction"
      [("table", .quoted offer.table), ("code", .plain field.code)]

/-- The events of the relationship tables of a document. -/
def relationshipEvents (document : Document) : List Event :=
  let event := detail "profile_ingest::dialects::relationship"
  let names := (document.placesNamed "relationshipTable").map (·.element.attributeText "name")
  ((names.filter fun name => (Relationship.splitName? name).isNone).map fun name =>
    event "skipping relationshipTable with malformed name" [("name", .quoted name)])
    ++ [event "extracted relationship types"
      [("count", .number (RelationshipTable.relationships document).length)]]

/-- The events of merging extractions one after another. -/
def mergeEvents (tables : Tables) : List Extraction → List Event
  | [] => []
  | extraction :: rest =>
    let (merged, accepted) := tables.merge extraction
    detail "profile_ingest::builder" "merged extraction"
        [("dialect", .quoted extraction.dialect.name),
          ("offered", .number extraction.fieldCount), ("accepted", .number accepted)]
      :: mergeEvents merged rest

/-- The events of giving the named base tables their intrinsic fields one after another. -/
def intrinsicEvents (tables : Tables) : List String → List Event
  | [] => []
  | name :: rest =>
    let (extended, inserted) := tables.offerFront name intrinsicFields
    detail "profile_ingest::builder" "added intrinsic fields"
        [("table", .quoted name), ("inserted", .number inserted)]
      :: intrinsicEvents extended rest

/-- All events between the start of the reading of a document and its end. -/
def readingEvents (document : Document) : List Event :=
  let found := byPrecedence (extractions document)
  elementSetEvents document ++ metadataElementEvents document ++ typeRestrictionEvents document
    ++ relationshipEvents document ++ mergeEvents .empty found
    ++ intrinsicEvents (Tables.empty.mergeAll found) baseTables

end CollectionProfile.Log
