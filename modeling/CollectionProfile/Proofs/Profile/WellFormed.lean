import CollectionProfile.Proofs.Profile.Declared
import Mathlib.Algebra.GroupWithZero.Nat

/-!
# Well-formed schemas

`IsWellFormed` collects what holds of the schema of every document, whatever its shape
(`ofProfile_wellFormed`): the names and codes that identify tables and fields are there and do not
repeat, whatever is shown to people has a label, and the summary counts what the schema holds.
-/

namespace CollectionProfile

open Markup (Document Element Node)

/-- The field is identified and labelled. -/
def Field.IsFilled (field : Field) : Prop := field.code ≠ "" ∧ field.label ≠ ""

/-- The offer is for a named table and all its fields are filled. -/
def Offer.IsFilled (offer : Offer) : Prop :=
  offer.table ≠ "" ∧ ∀ field ∈ offer.fields, field.IsFilled

/-- The relationship type joins two tables of the data model, and has both labels if it has a
code. -/
structure Relationship.IsSound (relationship : Relationship) : Prop where
  left : ∃ name, relationship.left = "ca_" ++ name
  right : ∃ name, relationship.right = "ca_" ++ name
  label : relationship.label = "" → relationship.code = ""
  reverseLabel : relationship.reverseLabel = "" → relationship.code = ""

/-- A base table holds each intrinsic code once. In front stand, in their order, the intrinsic
fields that the document does not declare for the table; the other fields are declared. -/
structure Table.IsBase (document : Document) (table : Table) : Prop where
  codes : ∀ code ∈ ["idno", "preferred_labels", "type_id", "access", "status"],
    table.codes.count code = 1
  fields : ∃ front rest, table.fields = front ++ rest ∧ front.Sublist intrinsicFields ∧
    (∀ field ∈ intrinsicFields, field ∈ front ↔ ¬ Declares document table.name field.code) ∧
    ∀ field ∈ rest, Declares document table.name field.code

/-- What holds of the schema of every document. -/
structure Schema.IsWellFormed (document : Document) (schema : Schema) : Prop where
  ascending : schema.tables.names.Pairwise (· < ·)
  named : ∀ name ∈ schema.tables.names, name ≠ ""
  stored : ∀ name table, schema.table? name = some table ↔
    table ∈ schema.tables.toList ∧ table.name = name
  codes : ∀ table ∈ schema.tables.toList, table.codes.Nodup
  filled : ∀ table ∈ schema.tables.toList, ∀ field ∈ table.fields, field.IsFilled
  base : ∀ name, IsBaseTable name → ∃ table, schema.table? name = some table ∧ table.IsBase document
  relationships : ∀ relationship ∈ schema.relationships, relationship.IsSound
  summary : schema.summary =
    { tables := schema.tables.toList.length
      fields := (schema.tables.toList.map (·.fields.length)).sum
      relationships := schema.relationships.length
      types := schema.vocabulary.types.length
      lists := Node.tagCounts "list" document.nodes }

/-! ### Offers -/

theorem Field.isFilled_declare {code : String} (h : code ≠ "")
    (datatype label description : String) : (declare code datatype label description).IsFilled :=
  ⟨h, label_declare_ne_empty h⟩

/-- In every dialect an element declares a field only by a code that is not empty. -/
theorem Field.isFilled_of_declared {element : Element} {declared : String → Field} {field : Field}
    (hdeclared : ∀ code, code ≠ "" → (declared code).IsFilled)
    (h : (element.filled? "code").map declared = some field) : field.IsFilled := by
  obtain ⟨code, hcode, rfl⟩ := Option.map_eq_some_iff.1 h
  exact hdeclared code (Markup.Element.filled?_eq_some_iff.1 hcode).2

theorem ElementSet.isFilled_of_mem_offers {document : Document} {offer : Offer}
    (h : offer ∈ offers document) : offer.IsFilled := by
  obtain ⟨place, -, hoffer⟩ := List.mem_filterMap.1 h
  obtain ⟨table, htable, rfl⟩ := Option.map_eq_some_iff.1 hoffer
  refine ⟨(Markup.Element.filled?_eq_some_iff.1 htable).2, fun field hfield => ?_⟩
  obtain ⟨element, -, hfield⟩ := List.mem_filterMap.1 hfield
  exact Field.isFilled_of_declared (fun _ hcode => Field.isFilled_declare hcode _ _ _) hfield

theorem MetadataElement.isFilled_of_mem_offers {document : Document} {offer : Offer}
    (h : offer ∈ offers document) : offer.IsFilled := by
  obtain ⟨place, -, hoffer⟩ := List.mem_flatMap.1 h
  obtain ⟨table, htable, rfl⟩ := List.mem_map.1 hoffer
  obtain ⟨restriction, -, hrestricted⟩ := List.mem_filterMap.1 htable
  refine ⟨(restrictedTable?_eq_some_iff.1 hrestricted).2, fun field hfield => ?_⟩
  exact Field.isFilled_of_declared (fun _ hcode => Field.isFilled_declare hcode _ _ _)
    (Option.mem_toList.1 hfield)

theorem TypeRestriction.isFilled_of_mem_offers {document : Document} {offer : Offer}
    (h : offer ∈ offers document) : offer.IsFilled := by
  obtain ⟨place, -, hoffer⟩ := List.mem_filterMap.1 h
  obtain ⟨table, htable, rfl⟩ := Option.map_eq_some_iff.1 hoffer
  refine ⟨(Markup.Element.filled?_eq_some_iff.1 htable).2, fun field hfield => ?_⟩
  obtain ⟨parent, -, hfield⟩ := Option.bind_eq_some_iff.1 (Option.mem_toList.1 hfield)
  exact Field.isFilled_of_declared (fun _ hcode => Field.isFilled_declare hcode _ _ _) hfield

/-- Whatever a document offers is filled, in every dialect. -/
theorem isFilled_of_mem_extractions {document : Document} {extraction : Extraction}
    (hextraction : extraction ∈ extractions document) {offer : Offer}
    (hoffer : offer ∈ extraction.offers) : offer.IsFilled := by
  simp only [extractions, List.mem_cons, List.not_mem_nil, or_false] at hextraction
  rcases hextraction with rfl | rfl | rfl
  · exact ElementSet.isFilled_of_mem_offers hoffer
  · exact MetadataElement.isFilled_of_mem_offers hoffer
  · exact TypeRestriction.isFilled_of_mem_offers hoffer

/-! ### Tables -/

theorem isFilled_intrinsicFields {field : Field} (h : field ∈ intrinsicFields) :
    field.IsFilled := by
  have hall : ∀ field ∈ intrinsicFields, field.code ≠ "" ∧ field.label ≠ "" := by decide
  exact hall field h

theorem ne_empty_of_mem_names {document : Document} {name : String}
    (h : name ∈ (Schema.ofDocument document).tables.names) : name ≠ "" := by
  rw [Schema.ofDocument, mem_names_assemble] at h
  rcases h with ⟨extraction, hextraction, offer, hoffer, rfl⟩ | hbase
  · exact (isFilled_of_mem_extractions hextraction hoffer).1
  · have hall : ∀ name ∈ baseTables, name ≠ "" := by decide
    exact hall name hbase

theorem isFilled_of_mem_fieldsOf {document : Document} {name : String} {field : Field}
    (h : field ∈ (Schema.ofDocument document).tables.fieldsOf name) : field.IsFilled := by
  rcases mem_fields_assemble h with hintrinsic | ⟨extraction, hextraction, offer, hoffer, -, hfield⟩
  · exact isFilled_intrinsicFields hintrinsic
  · exact (isFilled_of_mem_extractions hextraction hoffer).2 field hfield

/-- What a document supplies to a table is what it declares for it. -/
theorem mem_codes_supplied {document : Document} {table code : String} :
    code ∈ Field.codes (Field.firsts (offeredTo (extractions document) table)) ↔
      Declares document table code := by
  rw [Field.mem_codes_firsts, mem_codes_offeredTo, offered_extractions_iff]

theorem nodup_codes_of_mem {document : Document} {table : Table}
    (hmem : table ∈ (Schema.ofDocument document).tables.toList) : table.codes.Nodup := by
  have hnodup := nodup_codes_assemble (extractions document)
    (RelationshipTable.relationships document) (.ofDocument document) table.name
  rwa [← Schema.ofDocument, Tables.fieldsOf_of_mem hmem] at hnodup

theorem isBase_of_mem {document : Document} {table : Table}
    (hmem : table ∈ (Schema.ofDocument document).tables.toList) (hbase : IsBaseTable table.name) :
    table.IsBase document := by
  have hfields := fieldsOf_assemble (extractions document)
    (RelationshipTable.relationships document) (.ofDocument document) table.name
  simp only [if_pos hbase] at hfields
  have htable := Tables.fieldsOf_of_mem hmem
  constructor
  · intro code hcode
    have hcodes := (@mem_codes_ofDocument document table.name code).2 (.inl ⟨hbase, hcode⟩)
    rw [htable] at hcodes
    exact List.count_eq_one_of_mem (nodup_codes_of_mem hmem) hcodes
  · refine ⟨_, _, htable.symm.trans hfields, List.filter_sublist, fun field hfield => ?_,
      fun field hfield => ?_⟩
    · rw [List.mem_filter, ← mem_codes_supplied]
      simp [hfield]
    · exact mem_codes_supplied.1 (Field.mem_codes_iff.2 ⟨field, hfield, rfl⟩)

/-! ### Relationship types -/

theorem Locale.firstKnownText_ne_empty {candidates : List (Candidate String)} {text : String}
    (h : firstKnownText candidates = some text) : text ≠ "" := by
  obtain ⟨candidate, hfind, rfl⟩ := Option.map_eq_some_iff.1 h
  have hfound := List.find?_some hfind
  simp only [Bool.and_eq_true, decide_eq_true_iff] at hfound
  exact hfound.2

/-- A direction is without a label only where the type has no code to stand in for one. -/
theorem RelationshipTable.code_of_directionLabel {type : Element} {direction : String}
    (h : directionLabel type direction = "") : type.attributeText "code" = "" := by
  rw [directionLabel] at h
  cases hknown : Locale.firstKnownText ((type.owned "label").map fun label =>
      ⟨label.attribute? "locale", (label.firstText? direction).getD ""⟩) with
  | none => simpa only [hknown, Option.getD_none] using h
  | some text =>
    simp only [hknown, Option.getD_some] at h
    exact absurd h (Locale.firstKnownText_ne_empty hknown)

theorem RelationshipTable.isSound_of_mem {document : Document} {found : Relationship}
    (h : found ∈ relationships document) : found.IsSound := by
  obtain ⟨place, -, hfound⟩ := List.mem_flatMap.1 h
  rw [ofContainer] at hfound
  split at hfound
  · next left right _ =>
    obtain ⟨type, -, rfl⟩ := List.mem_map.1 hfound
    exact ⟨⟨left, rfl⟩, ⟨right, rfl⟩, code_of_directionLabel, code_of_directionLabel⟩
  · exact absurd hfound List.not_mem_nil

/-! ### The schema -/

theorem summary_ofDocument (document : Document) :
    let schema := Schema.ofDocument document
    schema.summary =
      { tables := schema.tables.toList.length
        fields := (schema.tables.toList.map (·.fields.length)).sum
        relationships := schema.relationships.length
        types := schema.vocabulary.types.length
        lists := Node.tagCounts "list" document.nodes } := by
  intro schema
  have hlists : schema.vocabulary.listCount = Node.tagCounts "list" document.nodes :=
    document.length_placesNamed "list"
  rw [Schema.summary, Tables.fieldCount, List.length_flatMap, hlists]

theorem isWellFormed_ofDocument (document : Document) :
    (Schema.ofDocument document).IsWellFormed document where
  ascending := List.pairwise_map.2 (Schema.ofDocument document).tables.ascending
  named _ := ne_empty_of_mem_names
  stored _ _ := Tables.find?_eq_some_iff
  codes _ := nodup_codes_of_mem
  filled table hmem field hfield := by
    rw [← Tables.fieldsOf_of_mem hmem] at hfield
    exact isFilled_of_mem_fieldsOf hfield
  base name hname := by
    have hmem : name ∈ (Schema.ofDocument document).tables.names :=
      mem_names_assemble.2 (.inr hname)
    obtain ⟨table, htable, rfl⟩ := Tables.mem_names_iff.1 hmem
    exact ⟨table, Tables.find?_eq_some_iff.2 ⟨htable, rfl⟩, isBase_of_mem htable hname⟩
  relationships _ := RelationshipTable.isSound_of_mem
  summary := summary_ofDocument document

/-- Reading a document that is well-formed yields a schema that is. -/
theorem ofProfile_wellFormed {text : String} {document : Document}
    (h : Document.ofText text = .ok document) :
    ∃ schema, Schema.ofProfile text = .ok schema ∧ schema.IsWellFormed document :=
  ⟨.ofDocument document, ofProfile_of_ofText h, isWellFormed_ofDocument document⟩

/-- A base table that supplies an intrinsic code twice, a relationship type without labels, and two
lists, one inside the other. -/
theorem ofProfile_wellFormed_lists :
    let text := "<p><elementSet code='ca_loans'><element code='idno'/><element code='idno'/>"
      ++ "</elementSet><relationshipTable name='loans_x_entities'><type code='r'/>"
      ++ "</relationshipTable><list code='l'><list/></list></p>"
    ∃ document schema, Document.ofText text = .ok document ∧ Schema.ofProfile text = .ok schema ∧
      schema.IsWellFormed document ∧ schema.summary.lists = 2 := by
  intro text
  have hread : (Document.ofText text).toOption.any
      (fun document => Node.tagCounts "list" document.nodes = 2) = true := by decide +kernel
  obtain ⟨document, hdocument, hlists⟩ := exists_ok_of_any hread
  obtain ⟨schema, hschema, hwellFormed⟩ := ofProfile_wellFormed hdocument
  refine ⟨document, schema, hdocument, hschema, hwellFormed, ?_⟩
  rw [hwellFormed.summary]
  exact of_decide_eq_true hlists

end CollectionProfile
