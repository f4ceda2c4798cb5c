import CollectionProfile.Profile.Reading
import CollectionProfile.Proofs.Markup.Remark

/-!
# Remarks in a profile

Comments and processing instructions in a profile have no effect on what is read of it
(`ofDocument_remarks`). Whatever is read of a document is read alike of its bare form, which
documents that differ in remarks alone have in common.
-/

namespace CollectionProfile

open Markup (Document Element Node Place)

theorem localized_bare (element : Element) (name : String) :
    localized element.bare name = localized element name := by
  rw [localized, Element.owned_bare, List.map_map, localized]
  apply congrArg (List.map · _)
  funext found
  rw [Function.comp_apply, found.text_bare]
  rfl

namespace ElementSet

theorem field?_bare (element : Element) : field? element.bare = field? element := by
  rw [field?, localized_bare, localized_bare]
  rfl

theorem offer?_bare (set : Element) : offer? set.bare = offer? set := by
  rw [offer?, set.descendants_bare, List.filterMap_map]
  have hfields : field? ∘ Element.bare = field? := funext field?_bare
  rw [hfields]
  rfl

theorem offers_bare (document : Document) : offers document.bare = offers document := by
  rw [offers, document.placesNamed_bare, List.filterMap_map]
  apply congrArg (List.filterMap · _)
  funext place
  exact offer?_bare place.element

end ElementSet

namespace MetadataElement

theorem ofLabel_bare (label : Element) : LabelSlots.ofLabel label.bare = .ofLabel label := by
  rw [LabelSlots.ofLabel, label.firstText?_bare, label.firstText?_bare]
  rfl

theorem ownedUnder_bare (owner : Element) (parent name : String) :
    ownedUnder owner.bare parent name = (ownedUnder owner parent name).map Element.bare := by
  rw [ownedUnder, owner.ownedPlaces_bare, List.filter_map, List.map_map, ownedUnder, List.map_map]
  have hparent : ∀ place : Place, (place.bare.around.head?.getD owner.bare).tag
      = (place.around.head?.getD owner).tag := by
    rintro ⟨element, around⟩
    cases around with
    | nil => rfl
    | cons parent rest => rfl
  simp only [Function.comp_def, hparent]
  rfl

theorem resolveLabels_bare (element : Element) :
    resolveLabels element.bare = resolveLabels element := by
  rw [resolveLabels, labels, ownedUnder_bare, List.foldl_map]
  simp only [ofLabel_bare]
  rfl

theorem restrictedTable?_bare (restriction : Element) :
    restrictedTable? restriction.bare = restrictedTable? restriction := by
  rw [restrictedTable?, restriction.firstText?_bare]
  rfl

theorem tables_bare (element : Element) : tables element.bare = tables element := by
  rw [tables, ownedUnder_bare, List.filterMap_map]
  have htables : restrictedTable? ∘ Element.bare = restrictedTable? := funext restrictedTable?_bare
  rw [htables]
  rfl

theorem field?_bare (element : Element) : field? element.bare = field? element := by
  rw [field?, resolveLabels_bare]
  rfl

theorem offers_bare (document : Document) : offers document.bare = offers document := by
  rw [offers, document.placesNamed_bare, List.flatMap_map]
  apply congrArg (List.flatMap · _)
  funext place
  simp only [Place.bare, tables_bare, field?_bare]

end MetadataElement

namespace TypeRestriction

theorem field?_bare (parent : Element) : field? parent.bare = field? parent := by
  rw [field?, localized_bare]
  rfl

theorem offer?_bare (marker : Place) : offer? marker.bare = offer? marker := by
  obtain ⟨element, around⟩ := marker
  cases around with
  | nil => rfl
  | cons parent rest =>
    simp only [offer?, Place.bare, List.map_cons, List.head?_cons, Option.bind_some, field?_bare]
    rfl

theorem offers_bare (document : Document) : offers document.bare = offers document := by
  rw [offers, document.placesNamed_bare, List.filterMap_map]
  apply congrArg (List.filterMap · _)
  funext marker
  exact offer?_bare marker

end TypeRestriction

theorem extractions_bare (document : Document) :
    extractions document.bare = extractions document := by
  rw [extractions, ElementSet.offers_bare, MetadataElement.offers_bare,
    TypeRestriction.offers_bare, extractions]

namespace RelationshipTable

theorem directionLabel_bare (type : Element) (direction : String) :
    directionLabel type.bare direction = directionLabel type direction := by
  simp only [directionLabel, type.owned_bare, List.map_map, Function.comp_def,
    Element.firstText?_bare]
  rfl

theorem relationship_bare (left right : String) (type : Element) :
    relationship left right type.bare = relationship left right type := by
  rw [relationship, directionLabel_bare, directionLabel_bare]
  rfl

theorem ofContainer_bare (container : Element) :
    ofContainer container.bare = ofContainer container := by
  have hname : container.bare.attributeText "name" = container.attributeText "name" := rfl
  rw [ofContainer, ofContainer, hname]
  split
  · rw [container.descendants_bare, List.map_map]
    apply congrArg (List.map · _)
    funext type
    exact relationship_bare _ _ type
  · rfl

theorem relationships_bare (document : Document) :
    relationships document.bare = relationships document := by
  rw [relationships, document.placesNamed_bare, List.flatMap_map]
  apply congrArg (List.flatMap · _)
  funext place
  exact ofContainer_bare place.element

end RelationshipTable

namespace Vocabulary

theorem label_bare (entry : Element) : label entry.bare = label entry := by
  rw [label, entry.firstText?_bare, label]

theorem recordType_bare (place : Place) : recordType place.bare = recordType place := by
  obtain ⟨element, around⟩ := place
  rw [recordType, Place.bare, label_bare]
  cases around with
  | nil => rfl
  | cons parent rest => rfl

theorem listEntries_bare (list : Element) : listEntries list.bare = listEntries list := by
  rw [listEntries, list.descendants_bare, List.map_map]
  apply congrArg (List.map · _)
  funext item
  rw [Function.comp_apply, entry, label_bare]
  rfl

theorem ofDocument_bare (document : Document) : ofDocument document.bare = ofDocument document := by
  have htypes : recordType ∘ Place.bare = recordType := funext recordType_bare
  have hentries : ∀ place : Place, listEntries place.bare.element = listEntries place.element :=
    fun place => listEntries_bare place.element
  simp only [ofDocument, document.placesNamed_bare, List.map_map, htypes, List.flatMap_map,
    hentries, List.length_map]

end Vocabulary

/-- Putting in and taking out comments and processing instructions, wherever they stand, changes
nothing of what is read of a profile. -/
theorem ofDocument_remarks {document edited : Document} (h : document.SameButRemarks edited) :
    extractions edited = extractions document ∧
      RelationshipTable.relationships edited = RelationshipTable.relationships document ∧
      Vocabulary.ofDocument edited = Vocabulary.ofDocument document ∧
      Schema.ofDocument edited = Schema.ofDocument document := by
  have hbare := h.bare_eq
  have hextractions : extractions edited = extractions document := by
    rw [← extractions_bare, ← hbare, extractions_bare]
  have hrelationships : RelationshipTable.relationships edited
      = RelationshipTable.relationships document := by
    rw [← RelationshipTable.relationships_bare, ← hbare, RelationshipTable.relationships_bare]
  have hvocabulary : Vocabulary.ofDocument edited = Vocabulary.ofDocument document := by
    rw [← Vocabulary.ofDocument_bare, ← hbare, Vocabulary.ofDocument_bare]
  refine ⟨hextractions, hrelationships, hvocabulary, ?_⟩
  rw [Schema.ofDocument, Schema.ofDocument, hextractions, hrelationships, hvocabulary]

/-- A comment is put into the text of a label, and an instruction in front of the root taken out. -/
theorem ofDocument_remarks_in_label :
    let profile (label : List Node) : Node :=
      .element ⟨none, "profile"⟩ [] [.element ⟨none, "elementSet"⟩ [⟨⟨none, "code"⟩, "t"⟩]
        [.element ⟨none, "element"⟩ [⟨⟨none, "code"⟩, "x"⟩]
          [.element ⟨none, "label"⟩ [⟨⟨none, "locale"⟩, "fr"⟩] label]]]
    let document : Document := ⟨[.instruction "xml-stylesheet" "", profile [.text "Nom"]]⟩
    let edited : Document := ⟨[profile [.text "No", .comment "plural", .text "m"]]⟩
    document.SameButRemarks edited ∧ Schema.ofDocument edited = Schema.ofDocument document ∧
      ElementSet.offers edited = [⟨"t", [.declare "x" "" "Nom" ""]⟩] := by
  intro profile document edited
  have hsame : document.SameButRemarks edited := by
    have hlabel : Markup.AddsRemark [.text "Nom"] [.text "No", .comment "plural", .text "m"] :=
      .cutting [] [] "No" "m" rfl
    have hprofile : Markup.AddsRemark [profile [.text "Nom"]] edited.nodes :=
      .inside [] [] _ _ (.inside [] [] _ _ (.inside [] [] _ _ (.inside [] [] _ _ hlabel)))
    have hroot : Markup.AddsRemark [profile [.text "Nom"]] document.nodes :=
      .between [] _ rfl
    exact .trans _ ⟨[profile [.text "Nom"]]⟩ _ (.symm _ _ (.rel _ _ hroot)) (.rel _ _ hprofile)
  exact ⟨hsame, (ofDocument_remarks hsame).2.2.2, by decide +kernel⟩

end CollectionProfile
