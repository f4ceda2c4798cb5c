import Mathlib.Data.List.Forall2
import CollectionProfile.Profile.Vocabulary
import CollectionProfile.Proofs.Markup.Place

/-!
# Labels of vocabulary entries

Record types and list entries may be nested in entries of the same kind. An entry takes the first
label below it, whichever entry that belongs to: mostly its own, but the label of a nested entry
where that comes first or the entry has none (`ofDocument_labels`).
-/

namespace CollectionProfile.Vocabulary

open Markup (Document Element Node Occurs Place)

/-- The text of the first label that belongs to an entry, with no entry of the same kind between;
empty if there is none. -/
def ownLabel (entry : Element) : String := ((entry.owned "label").head?.map (·.text)).getD ""

/-- The first label below an entry stands inside a nested entry of the same kind. -/
def BorrowsLabel (entry : Element) : Prop :=
  ∃ place, (entry.below.filter (·.tag = "label")).head? = some place ∧
    ∃ nested ∈ place.around, nested.tag = entry.tag

/-- Where the label of an entry comes from. -/
structure IsLabelOf (entry : Element) (label : String) : Prop where
  own : ¬BorrowsLabel entry → label = ownLabel entry
  /-- The first label below the entry belongs to an entry of the same kind that is nested in it. -/
  borrowed : BorrowsLabel entry → ∃ nested inside found, Occurs entry.children nested inside ∧
    nested.tag = entry.tag ∧ entry.firstDescendant? "label" = some found ∧
    found ∈ nested.owned "label" ∧ label = found.text

/-- The items of a document that are made entries of, list after list. -/
def items (document : Document) : List Element :=
  (document.placesNamed "list").flatMap fun place => place.element.descendants "item"

theorem ownedPlaces_eq (entry : Element) (name : String) :
    entry.ownedPlaces name = (entry.below.filter (·.tag = name)).filter fun place =>
      place.around.all (·.tag ≠ entry.tag) := by
  rw [List.filter_filter, Element.ownedPlaces]
  exact List.filter_congr fun _ _ => Bool.and_comm _ _

theorem label_eq_ownLabel {entry : Element} (h : ¬BorrowsLabel entry) :
    label entry = ownLabel entry := by
  rw [label, ownLabel, Element.firstText?, Element.firstDescendant?, Element.descendants,
    Element.owned, ownedPlaces_eq]
  cases hplaces : entry.below.filter (·.tag = "label") with
  | nil => rfl
  | cons place rest =>
    have hown : place.around.all (·.tag ≠ entry.tag) = true := by
      rw [List.all_eq_true]
      intro between hbetween
      refine decide_eq_true fun htag => h ⟨place, ?_, between, hbetween, htag⟩
      rw [hplaces, List.head?_cons]
    rw [List.filter_cons, if_pos hown]
    rfl

/-- A borrowed label belongs to the nearest nested entry around it. -/
theorem exists_nested_of_borrowsLabel {entry : Element} (h : BorrowsLabel entry) :
    ∃ nested inside found, Occurs entry.children nested inside ∧ nested.tag = entry.tag ∧
      entry.firstDescendant? "label" = some found ∧ found ∈ nested.owned "label" ∧
      label entry = found.text := by
  obtain ⟨place, hplace, between, hbetween, htag⟩ := h
  obtain ⟨hmem, hname⟩ := List.mem_filter.1 (List.mem_of_head? hplace)
  obtain ⟨nested, hnested⟩ : ∃ nested, place.around.find? (·.tag = entry.tag) = some nested :=
    Option.isSome_iff_exists.1 (List.find?_isSome.2 ⟨between, hbetween, decide_eq_true htag⟩)
  obtain ⟨inside, base, -, hkind, hinner, houter, hlabel⟩ :=
    Occurs.find?_iff.1 ⟨Element.mem_below_iff.1 hmem, hnested⟩
  have hfirst : entry.firstDescendant? "label" = some place.element := by
    rw [Element.firstDescendant?, Element.descendants, List.head?_map, hplace, Option.map_some]
  have howned : place.element ∈ nested.owned "label" := by
    refine List.mem_map.2 ⟨⟨place.element, inside⟩, Element.mem_ownedPlaces_iff.2 ?_, rfl⟩
    exact ⟨hlabel, of_decide_eq_true hname, fun between hmem => hkind ▸ hinner between hmem⟩
  refine ⟨nested, base, place.element, houter, hkind, hfirst, howned, ?_⟩
  rw [label, Element.firstText?, hfirst]
  rfl

theorem isLabelOf_label (entry : Element) : IsLabelOf entry (label entry) :=
  ⟨label_eq_ownLabel, exists_nested_of_borrowsLabel⟩

/-- Every entry and record type of a document has its own label, unless the first label below it is
in a nested entry; then it has a label of such an entry. -/
theorem ofDocument_labels (document : Document) :
    List.Forall₂ (fun item entry => IsLabelOf item entry.label) (items document)
      (ofDocument document).entries ∧
    List.Forall₂ (fun place recordType => IsLabelOf place.element recordType.name)
      (document.placesNamed "type") (ofDocument document).types := by
  constructor
  · have hlist (list : Element) : List.Forall₂ (fun item entry => IsLabelOf item entry.label)
        (list.descendants "item") (listEntries list) := by
      rw [listEntries, List.forall₂_map_right_iff, List.forall₂_same]
      exact fun item _ => isLabelOf_label item
    have hsame : List.Forall₂ Eq (document.placesNamed "list") (document.placesNamed "list") :=
      List.forall₂_refl _
    exact List.rel_flatMap hsame fun _ place h => h ▸ hlist place.element
  · change List.Forall₂ _ _ ((document.placesNamed "type").map recordType)
    rw [List.forall₂_map_right_iff, List.forall₂_same]
    exact fun place _ => isLabelOf_label place.element

/-- An item without a label takes the one of the item nested in it, and so does a record type. -/
theorem label_of_nested_entry :
    (¬∀ document, List.Forall₂ (fun item entry => ListEntry.label entry = ownLabel item)
      (items document) (ofDocument document).entries) ∧
    ¬∀ document, List.Forall₂ (fun place recordType =>
        RecordType.name recordType = ownLabel (Place.element place))
      (document.placesNamed "type") (ofDocument document).types := by
  let node (tag : String) (children : List Node) := Node.element ⟨none, tag⟩ [] children
  constructor
  · intro hclaim
    have h := hclaim ⟨[node "list" [node "item" [node "item" [node "label" [.text "B"]]]]]⟩
    have hfirst := (List.forall₂_iff_get.1 h).2 0 (by decide) (by decide)
    revert hfirst
    decide
  · intro hclaim
    have h := hclaim ⟨[node "types" [node "type" [node "type" [node "label" [.text "U"]]]]]⟩
    have hfirst := (List.forall₂_iff_get.1 h).2 0 (by decide) (by decide)
    revert hfirst
    decide

end CollectionProfile.Vocabulary
