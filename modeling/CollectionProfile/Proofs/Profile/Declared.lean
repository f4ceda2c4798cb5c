import CollectionProfile.Profile.Reading
import CollectionProfile.Proofs.Markup.Place
import CollectionProfile.Proofs.Profile.Assembly

/-!
# Which fields a profile declares

`Declares` says where a document declares a field for a table, in each of the three dialects, by
what occurs in the document and around it. A profile's schema holds exactly the declared pairs of
table and code, besides the intrinsic fields of the base tables (`ofProfile_declared`).
-/

namespace CollectionProfile

open Markup (Document Element Occurs Place)

/-- The element has the attribute `name` with this value, which is not empty. -/
def Markup.Element.Carries (element : Element) (name value : String) : Prop :=
  element.attribute? name = some value ∧ value ≠ ""

/-- An `elementSet` of the table has the code on an `element` somewhere below it. -/
def DeclaredInSet (document : Document) (table code : String) : Prop :=
  ∃ set base element inside, Occurs document.nodes set base ∧ set.tag = "elementSet" ∧
    set.Carries "code" table ∧ Occurs set.children element inside ∧ element.tag = "element" ∧
    element.Carries "code" code

/-- A `restriction` right under `typeRestrictions` names the table, by the text of its first
`table`, and the nearest `metadataElement` around it has the code. -/
def DeclaredByRestriction (document : Document) (table code : String) : Prop :=
  ∃ restriction parent around owner, Occurs document.nodes restriction (parent :: around) ∧
    restriction.tag = "restriction" ∧ parent.tag = "typeRestrictions" ∧
    (parent :: around).find? (·.tag = "metadataElement") = some owner ∧
    owner.Carries "code" code ∧
    (∃ first, restriction.firstDescendant? "table" = some first ∧
      String.ofList (Text.trimBlank first.text.toList) = table) ∧ table ≠ ""

/-- A `typeRestriction` of the table stands right under an element of the code. -/
def DeclaredByMarker (document : Document) (table code : String) : Prop :=
  ∃ marker parent around, Occurs document.nodes marker (parent :: around) ∧
    marker.tag = "typeRestriction" ∧ marker.Carries "type" table ∧ parent.Carries "code" code

/-- The document declares a field of this code for the table. -/
def Declares (document : Document) (table code : String) : Prop :=
  DeclaredInSet document table code ∨ DeclaredByRestriction document table code ∨
    DeclaredByMarker document table code

theorem Markup.Element.filled?_eq_some_iff {element : Element} {name value : String} :
    element.filled? name = some value ↔ element.Carries name value := by
  rw [filled?, Option.filter_eq_some_iff, Carries, decide_eq_true_iff]

/-- In every dialect the field of an element has the code that the element carries. -/
theorem exists_declared_iff {element : Element} {declared : String → Field} {code : String}
    (h : ∀ code, (declared code).code = code) :
    (∃ field, (element.filled? "code").map declared = some field ∧ field.code = code) ↔
      element.Carries "code" code := by
  simp only [Option.map_eq_some_iff, Markup.Element.filled?_eq_some_iff]
  constructor
  · rintro ⟨_, ⟨code', hcarries, rfl⟩, rfl⟩
    rwa [h]
  · intro hcarries
    exact ⟨_, ⟨code, hcarries, rfl⟩, h code⟩

/-! ### The three dialects -/

theorem ElementSet.exists_field?_iff {element : Element} {code : String} :
    (∃ field, field? element = some field ∧ field.code = code) ↔ element.Carries "code" code :=
  exists_declared_iff fun _ => rfl

theorem ElementSet.offered_iff {document : Document} {table code : String} :
    Offered (offers document) table code ↔ DeclaredInSet document table code := by
  simp only [Offered, offers, offer?, List.mem_filterMap, Document.mem_placesNamed_iff,
    Option.map_eq_some_iff, Markup.Element.filled?_eq_some_iff]
  constructor
  · rintro ⟨_, ⟨place, ⟨hplace, htag⟩, table', hcarries, rfl⟩, rfl, field, hfield, rfl⟩
    obtain ⟨element, hmem, helement⟩ := List.mem_filterMap.1 hfield
    obtain ⟨inside, hinside, hname⟩ := Markup.Element.mem_descendants_iff.1 hmem
    exact ⟨place.element, place.around, element, inside, hplace, htag, hcarries, hinside, hname,
      exists_field?_iff.1 ⟨field, helement, rfl⟩⟩
  · rintro ⟨set, base, element, inside, hset, htag, hcarries, hinside, hname, hcode⟩
    obtain ⟨field, hfield, hfieldCode⟩ := exists_field?_iff.2 hcode
    have hmem := Markup.Element.mem_descendants_iff.2 ⟨inside, hinside, hname⟩
    exact ⟨_, ⟨⟨set, base⟩, ⟨hset, htag⟩, table, hcarries, rfl⟩, rfl, field,
      List.mem_filterMap.2 ⟨element, hmem, hfield⟩, hfieldCode⟩

theorem MetadataElement.exists_field?_iff {element : Element} {code : String} :
    (∃ field, field? element = some field ∧ field.code = code) ↔ element.Carries "code" code :=
  exists_declared_iff fun _ => rfl

/-- An element that belongs to `owner` and stands right under one of a name: the parent is the
nearest element around it, the owner itself where there is none between. -/
theorem MetadataElement.mem_ownedUnder_iff {owner element : Element} {parent name : String} :
    element ∈ ownedUnder owner parent name ↔
      ∃ inside, Occurs owner.children element inside ∧ element.tag = name ∧
        (∀ between ∈ inside, between.tag ≠ owner.tag) ∧ (inside.head?.getD owner).tag = parent := by
  simp only [ownedUnder, List.mem_map, List.mem_filter, Markup.Element.mem_ownedPlaces_iff,
    decide_eq_true_iff]
  constructor
  · rintro ⟨place, ⟨⟨hoccurs, htag, hbetween⟩, hparent⟩, rfl⟩
    exact ⟨place.around, hoccurs, htag, hbetween, hparent⟩
  · rintro ⟨inside, hoccurs, htag, hbetween, hparent⟩
    exact ⟨⟨element, inside⟩, ⟨⟨hoccurs, htag, hbetween⟩, hparent⟩, rfl⟩

theorem MetadataElement.restrictedTable?_eq_some_iff {restriction : Element} {table : String} :
    restrictedTable? restriction = some table ↔
      (∃ first, restriction.firstDescendant? "table" = some first ∧
        String.ofList (Text.trimBlank first.text.toList) = table) ∧ table ≠ "" := by
  simp only [restrictedTable?, Markup.Element.firstText?, Option.filter_eq_some_iff,
    Option.map_map, Option.map_eq_some_iff, decide_eq_true_iff, Function.comp_apply]

/-- The element right around something inside an owner is the owner where there is none between. -/
theorem MetadataElement.head?_getD_eq_iff {owner parent : Element} {inside base : List Element} :
    inside.head?.getD owner = parent ↔ ∃ around, inside ++ owner :: base = parent :: around := by
  cases inside with
  | nil => simp
  | cons head rest => simp

theorem MetadataElement.offered_iff {document : Document} {table code : String} :
    Offered (offers document) table code ↔ DeclaredByRestriction document table code := by
  simp only [Offered, offers, List.mem_flatMap, Document.mem_placesNamed_iff, List.mem_map]
  constructor
  · rintro ⟨_, ⟨place, ⟨hplace, htag⟩, table', htable, rfl⟩, rfl, field, hfield, rfl⟩
    obtain ⟨restriction, hmem, hnamed⟩ := List.mem_filterMap.1 htable
    obtain ⟨inside, hinside, hname, hbetween, hparent⟩ := mem_ownedUnder_iff.1 hmem
    have hcode := exists_field?_iff.1 ⟨field, by simpa using hfield, rfl⟩
    -- No metadata element stands between, so the owner is the nearest one.
    have hnearest := Occurs.find?_iff.2 ⟨inside, place.around, rfl, htag,
      fun between hb => htag ▸ hbetween between hb, hplace, hinside⟩
    obtain ⟨hfirst, hne⟩ := restrictedTable?_eq_some_iff.1 hnamed
    obtain ⟨around, haround⟩ := (@head?_getD_eq_iff _ _ inside place.around).1 rfl
    rw [haround] at hnearest
    exact ⟨_, _, _, _, hnearest.1, hname, hparent, hnearest.2, hcode, hfirst, hne⟩
  · rintro ⟨restriction, parent, around, owner, hoccurs, hname, hparent, hnearest, hcode, hfirst,
      hne⟩
    obtain ⟨inside, base, hsplit, htag, hbetween, howner, hinside⟩ :=
      Occurs.find?_iff.1 ⟨hoccurs, hnearest⟩
    obtain ⟨field, hfield, hfieldCode⟩ := exists_field?_iff.2 hcode
    have hhead := head?_getD_eq_iff.2 ⟨around, hsplit.symm⟩
    have hmem : restriction ∈ ownedUnder owner "typeRestrictions" "restriction" :=
      mem_ownedUnder_iff.2 ⟨inside, hinside, hname,
        fun between hb => htag.symm ▸ hbetween between hb, hhead ▸ hparent⟩
    have htable : table ∈ tables owner :=
      List.mem_filterMap.2 ⟨restriction, hmem, restrictedTable?_eq_some_iff.2 ⟨hfirst, hne⟩⟩
    exact ⟨_, ⟨⟨owner, base⟩, ⟨howner, htag⟩, table, htable, rfl⟩, rfl, field,
      by simpa using hfield, hfieldCode⟩

theorem TypeRestriction.exists_field?_iff {element : Element} {code : String} :
    (∃ field, field? element = some field ∧ field.code = code) ↔ element.Carries "code" code :=
  exists_declared_iff fun _ => rfl

theorem TypeRestriction.offered_iff {document : Document} {table code : String} :
    Offered (offers document) table code ↔ DeclaredByMarker document table code := by
  simp only [Offered, offers, offer?, List.mem_filterMap, Document.mem_placesNamed_iff,
    Option.map_eq_some_iff, Markup.Element.filled?_eq_some_iff]
  constructor
  · rintro ⟨_, ⟨⟨marker, around⟩, ⟨hplace, htag⟩, table', hcarries, rfl⟩, rfl, field, hfield, rfl⟩
    cases around with
    | nil => simp at hfield
    | cons parent rest =>
      have hcode := exists_field?_iff.1 ⟨field, by simpa using hfield, rfl⟩
      exact ⟨marker, parent, rest, hplace, htag, hcarries, hcode⟩
  · rintro ⟨marker, parent, around, hplace, htag, hcarries, hcode⟩
    obtain ⟨field, hfield, hfieldCode⟩ := exists_field?_iff.2 hcode
    exact ⟨_, ⟨⟨marker, parent :: around⟩, ⟨hplace, htag⟩, table, hcarries, rfl⟩, rfl, field,
      by simpa using hfield, hfieldCode⟩

theorem offered_extractions_iff {document : Document} {table code : String} :
    (∃ extraction ∈ extractions document, Offered extraction.offers table code) ↔
      Declares document table code := by
  rw [Declares, ← ElementSet.offered_iff, ← MetadataElement.offered_iff,
    ← TypeRestriction.offered_iff]
  simp [extractions]

theorem mem_codes_ofDocument {document : Document} {table code : String} :
    code ∈ Field.codes ((Schema.ofDocument document).tables.fieldsOf table) ↔
      (IsBaseTable table ∧ code ∈ Field.codes intrinsicFields) ∨ Declares document table code := by
  rw [Schema.ofDocument, mem_codes_assemble, offered_extractions_iff]

theorem exists_ok_of_any {ε α : Type} {result : Except ε α} {p : α → Bool}
    (h : result.toOption.any p = true) : ∃ value, result = .ok value ∧ p value = true := by
  cases result with
  | ok value => exact ⟨value, rfl, h⟩
  | error _ => simp [Except.toOption] at h

/-- Reading a document that is well-formed yields its schema. -/
theorem ofProfile_of_ofText {text : String} {document : Document}
    (h : Document.ofText text = .ok document) :
    Schema.ofProfile text = .ok (.ofDocument document) := by
  rw [Schema.ofProfile, Schema.documentOf, h]
  rfl

/-- The schema of a profile has a field of a code in a table exactly where that is an intrinsic
field of a base table or the document declares it. -/
theorem ofProfile_declared {text : String} {document : Document}
    (h : Document.ofText text = .ok document) :
    ∃ schema, Schema.ofProfile text = .ok schema ∧ ∀ table code,
      (∃ entry ∈ schema.tables.toList, entry.name = table ∧
        ∃ field ∈ entry.fields, field.code = code) ↔
      (IsBaseTable table ∧ code ∈ ["idno", "preferred_labels", "type_id", "access", "status"]) ∨
        DeclaredInSet document table code ∨ DeclaredByRestriction document table code ∨
        DeclaredByMarker document table code := by
  refine ⟨.ofDocument document, ofProfile_of_ofText h, fun table code => ?_⟩
  rw [← Tables.mem_codes_fieldsOf_iff, mem_codes_ofDocument, Declares,
    Tables.codes_intrinsicFields]

/-- A restriction inside an element set. -/
theorem ofProfile_declared_nested :
    let text := "<p><elementSet code='a'><metadataElement code='m'><typeRestrictions>"
      ++ "<restriction><table> b </table></restriction></typeRestrictions>"
      ++ "<element code='e'/></metadataElement></elementSet></p>"
    ∃ document schema, Document.ofText text = .ok document ∧ Schema.ofProfile text = .ok schema ∧
      ∃ table ∈ schema.tables.toList, table.name = "b" ∧
        ∃ field ∈ table.fields, field.code = "m" := by
  intro text
  have hread : (Document.ofText text).toOption.any (fun document =>
      (MetadataElement.offers document).any fun offer =>
        offer.table = "b" && offer.fields.any (·.code = "m")) = true := by decide +kernel
  obtain ⟨document, hdocument, hoffers⟩ := exists_ok_of_any hread
  have hoffered : Offered (MetadataElement.offers document) "b" "m" := by
    simpa [Offered] using hoffers
  obtain ⟨schema, hschema, hdeclared⟩ := ofProfile_declared hdocument
  refine ⟨document, schema, hdocument, hschema, (hdeclared "b" "m").2 (.inr (.inr (.inl ?_)))⟩
  exact MetadataElement.offered_iff.1 hoffered

end CollectionProfile
