import CollectionProfile.Proofs.Profile.Declared

/-!
# Exchanging blocks of a profile

Two neighbouring blocks under the root of a profile may change places without any effect on its
schema, as long as no kind of declaration occurs in both of them (`ofDocument_exchange`). Every
search looks for one name, so it finds nothing in one of the two blocks, and what it finds keeps its
order (`placesNamed_exchange`). Only the root itself is different around what is found, which
matters to no search as the root carries no code.
-/

namespace CollectionProfile

open Markup (Document Element Node Place)

/-- The element or one below it has the name. -/
def Markup.Element.Has (element : Element) (name : String) : Prop :=
  element.tag = name ∨ element.descendants name ≠ []

/-- The names of the elements that declare something. -/
def declaringNames : List String :=
  ["elementSet", "metadataElement", "typeRestriction", "relationshipTable", "type", "list"]

/-- The documents are the same but for two elements under the root, which have changed places.
Between the two there is no other element. -/
def Exchanged (document exchanged : Document) (root first second : Element) : Prop :=
  ∃ before front between back after : List Node,
    (∀ node ∈ before ++ between, node.element? = none) ∧
    root.children = front ++ first.toNode :: (between ++ second.toNode :: back) ∧
    document.nodes = before ++ root.toNode :: after ∧
    exchanged.nodes = before
      ++ Element.toNode
        { root with children := front ++ second.toNode :: (between ++ first.toNode :: back) }
      :: after

/-! ### One search -/

/-- A search in an element of another name is a search below it. -/
theorem filter_ofNode_of_ne {element : Element} {name : String} (h : element.tag ≠ name)
    (around : List Element) :
    (Place.ofNode around element.toNode).filter (·.tag = name)
      = ((Place.ofNodes [] element.children).filter (·.tag = name)).map
        (·.within (element :: around)) := by
  have hself : ¬ decide ((⟨element, around⟩ : Place).tag = name) = true := by
    rw [decide_eq_true_iff]
    exact h
  rw [← Markup.filter_ofNodes_around, Element.toNode, Place.ofNode, List.filter_cons]
  exact if_neg hself

/-- A search finds nothing in an element that neither has the name nor holds one that has. -/
theorem filter_ofNode_of_not_has {element : Element} {name : String} (h : ¬ element.Has name)
    (around : List Element) : (Place.ofNode around element.toNode).filter (·.tag = name) = [] := by
  obtain ⟨htag, hbelow⟩ := not_or.1 h
  have hnone : (Place.ofNodes [] element.children).filter (·.tag = name) = [] :=
    List.map_eq_nil_iff.1 (not_not.1 hbelow)
  rw [filter_ofNode_of_ne htag, hnone]
  rfl

/-- The children of the root yield the same to a search before and after the exchange. -/
theorem filter_ofNodes_exchange {first second : Element} {name : String}
    (hapart : ¬ (first.Has name ∧ second.Has name)) (front : List Node) {between : List Node}
    (hbetween : ∀ node ∈ between, node.element? = none) (back : List Node) :
    (Place.ofNodes [] (front ++ second.toNode :: (between ++ first.toNode :: back))).filter
        (·.tag = name)
      = (Place.ofNodes [] (front ++ first.toNode :: (between ++ second.toNode :: back))).filter
        (·.tag = name) := by
  simp only [Markup.ofNodes_append, Place.ofNodes, Markup.ofNodes_eq_nil hbetween, List.nil_append,
    List.filter_append]
  rcases not_and_or.1 hapart with h | h
  · rw [filter_ofNode_of_not_has h, List.nil_append, List.nil_append]
  · rw [filter_ofNode_of_not_has h, List.nil_append, List.nil_append]

section Exchange

variable {document exchanged : Document} {root first second : Element}

/-- What a search finds stands in the same elements in the same order, only with another root. -/
theorem placesNamed_exchange (h : Exchanged document exchanged root first second) {name : String}
    (hroot : root.tag ≠ name) (hapart : ¬ (first.Has name ∧ second.Has name)) :
    ∃ (children : List Node) (outside inside : List Place),
      document.placesNamed name = inside.map (·.within [root]) ++ outside ∧
      exchanged.placesNamed name = inside.map (·.within [{ root with children }]) ++ outside := by
  obtain ⟨before, front, between, back, after, hnone, hchildren, hdocument, hexchanged⟩ := h
  have hbefore : ∀ node ∈ before, node.element? = none := fun node hmem =>
    hnone node (List.mem_append_left _ hmem)
  have hbetween : ∀ node ∈ between, node.element? = none := fun node hmem =>
    hnone node (List.mem_append_right _ hmem)
  have hplaces : ∀ (owner : Element), owner.tag ≠ name →
      (Place.ofNodes [] (before ++ owner.toNode :: after)).filter (·.tag = name)
        = ((Place.ofNodes [] owner.children).filter (·.tag = name)).map (·.within [owner])
          ++ (Place.ofNodes [] after).filter (·.tag = name) := by
    intro owner howner
    rw [Markup.ofNodes_append, Markup.ofNodes_eq_nil hbefore, List.nil_append, Place.ofNodes,
      List.filter_append, filter_ofNode_of_ne howner]
  let turned : Element :=
    { root with children := front ++ second.toNode :: (between ++ first.toNode :: back) }
  refine ⟨turned.children, (Place.ofNodes [] after).filter (·.tag = name),
    (Place.ofNodes [] root.children).filter (·.tag = name), ?_, ?_⟩
  · rw [Document.placesNamed, Document.places, hdocument]
    exact hplaces root hroot
  · rw [Document.placesNamed, Document.places, hexchanged, hplaces turned hroot, hchildren,
      filter_ofNodes_exchange hapart front hbetween back]

/-- Whatever is made of the places of a name is the same if it does not hang on the root. -/
theorem flatMap_placesNamed_exchange (h : Exchanged document exchanged root first second)
    {name : String} (hroot : root.tag ≠ name) (hapart : ¬ (first.Has name ∧ second.Has name))
    {α : Type} {f : Place → List α}
    (hf : ∀ (place : Place) (children : List Node),
      f (place.within [{ root with children }]) = f (place.within [root])) :
    (exchanged.placesNamed name).flatMap f = (document.placesNamed name).flatMap f := by
  obtain ⟨children, outside, inside, hdocument, hexchanged⟩ := placesNamed_exchange h hroot hapart
  rw [hdocument, hexchanged, List.flatMap_append, List.flatMap_append, List.flatMap_map,
    List.flatMap_map]
  simp only [hf]

theorem map_placesNamed_exchange (h : Exchanged document exchanged root first second)
    {name : String} (hroot : root.tag ≠ name) (hapart : ¬ (first.Has name ∧ second.Has name))
    {α : Type} {f : Place → α}
    (hf : ∀ (place : Place) (children : List Node),
      f (place.within [{ root with children }]) = f (place.within [root])) :
    (exchanged.placesNamed name).map f = (document.placesNamed name).map f := by
  rw [List.map_eq_flatMap, List.map_eq_flatMap]
  apply flatMap_placesNamed_exchange h hroot hapart
  intro place children
  rw [hf]

theorem filterMap_placesNamed_exchange (h : Exchanged document exchanged root first second)
    {name : String} (hroot : root.tag ≠ name) (hapart : ¬ (first.Has name ∧ second.Has name))
    {α : Type} {f : Place → Option α}
    (hf : ∀ (place : Place) (children : List Node),
      f (place.within [{ root with children }]) = f (place.within [root])) :
    (exchanged.placesNamed name).filterMap f = (document.placesNamed name).filterMap f := by
  rw [List.filterMap_eq_flatMap_toList, List.filterMap_eq_flatMap_toList]
  apply flatMap_placesNamed_exchange h hroot hapart
  intro place children
  rw [hf]

theorem TypeRestriction.offer?_within (marker : Place) {owner : Element}
    (hcode : owner.attribute? "code" = none) :
    offer? (marker.within [owner])
      = (marker.element.filled? "type").map fun table =>
          (⟨table, (marker.around.head?.bind field?).toList⟩ : Offer) := by
  have hfield : field? owner = none := by
    rw [field?, Element.filled?, hcode]
    rfl
  obtain ⟨element, around⟩ := marker
  cases around with
  | nil =>
    show (element.filled? "type").map (fun table => (⟨table, (field? owner).toList⟩ : Offer)) = _
    rw [hfield]
    rfl
  | cons parent rest => rfl

theorem Vocabulary.recordType_within (place : Place) (children : List Node) :
    recordType (place.within [{ root with children }]) = recordType (place.within [root]) := by
  obtain ⟨element, around⟩ := place
  cases around with
  | nil => rfl
  | cons parent rest => rfl

/-- Exchanging two neighbouring blocks of a profile changes nothing of what is read of it, if no
kind of declaration stands in both. -/
theorem ofDocument_exchange (h : Exchanged document exchanged root first second)
    (hroot : root.tag = "profile") (hcode : root.attribute? "code" = none)
    (hapart : ∀ name ∈ declaringNames, ¬ (first.Has name ∧ second.Has name)) :
    extractions exchanged = extractions document ∧
      RelationshipTable.relationships exchanged = RelationshipTable.relationships document ∧
      Vocabulary.ofDocument exchanged = Vocabulary.ofDocument document ∧
      Schema.ofDocument exchanged = Schema.ofDocument document := by
  have hother : ∀ name ∈ declaringNames, root.tag ≠ name := by
    rw [hroot]
    decide
  have hsets : ElementSet.offers exchanged = ElementSet.offers document :=
    filterMap_placesNamed_exchange h (hother _ (by decide)) (hapart _ (by decide)) fun _ _ => rfl
  have helements : MetadataElement.offers exchanged = MetadataElement.offers document :=
    flatMap_placesNamed_exchange h (hother _ (by decide)) (hapart _ (by decide)) fun _ _ => rfl
  have hmarkers : TypeRestriction.offers exchanged = TypeRestriction.offers document := by
    apply filterMap_placesNamed_exchange h (hother _ (by decide)) (hapart _ (by decide))
    intro marker children
    rw [TypeRestriction.offer?_within marker hcode]
    exact TypeRestriction.offer?_within marker hcode
  have hextractions : extractions exchanged = extractions document := by
    rw [extractions, extractions, hsets, helements, hmarkers]
  have hrelationships : RelationshipTable.relationships exchanged
      = RelationshipTable.relationships document :=
    flatMap_placesNamed_exchange h (hother _ (by decide)) (hapart _ (by decide)) fun _ _ => rfl
  have hvocabulary : Vocabulary.ofDocument exchanged = Vocabulary.ofDocument document := by
    have htypes : (exchanged.placesNamed "type").map Vocabulary.recordType
        = (document.placesNamed "type").map Vocabulary.recordType :=
      map_placesNamed_exchange h (hother _ (by decide)) (hapart _ (by decide))
        Vocabulary.recordType_within
    have hlists : (exchanged.placesNamed "list").map (·.element)
        = (document.placesNamed "list").map (·.element) :=
      map_placesNamed_exchange h (hother _ (by decide)) (hapart _ (by decide)) fun _ _ => rfl
    have hcount := congrArg List.length hlists
    have hentries := congrArg (List.flatMap Vocabulary.listEntries) hlists
    rw [List.length_map, List.length_map] at hcount
    rw [List.flatMap_map, List.flatMap_map] at hentries
    simp only [Vocabulary.ofDocument, htypes, hentries, hcount]
  refine ⟨hextractions, hrelationships, hvocabulary, ?_⟩
  rw [Schema.ofDocument, Schema.ofDocument, hextractions, hrelationships, hvocabulary]

end Exchange

/-- A metadata element with the markers of another dialect in it, and an element set of the same
table and code before it. -/
theorem ofDocument_exchange_dialects :
    let element (tag : String) (attributes : List (String × String)) (children : List Node) :
        Element :=
      ⟨⟨none, tag⟩, attributes.map fun (name, value) => ⟨⟨none, name⟩, value⟩, children⟩
    let set := element "elementSet" [("code", "t")]
      [(element "element" [("code", "x"), ("datatype", "Text")] []).toNode]
    let metadata := element "metadataElement" [("code", "x"), ("datatype", "List")]
      [(element "typeRestriction" [("type", "t")] []).toNode]
    let root := element "profile" [] [set.toNode, .text " ", metadata.toNode]
    let turned := element "profile" [] [metadata.toNode, .text " ", set.toNode]
    Exchanged ⟨[root.toNode]⟩ ⟨[turned.toNode]⟩ root set metadata ∧ root.tag = "profile" ∧
      root.attribute? "code" = none ∧
      (∀ name ∈ declaringNames, ¬ (set.Has name ∧ metadata.Has name)) ∧
      Schema.ofDocument ⟨[turned.toNode]⟩ = Schema.ofDocument ⟨[root.toNode]⟩ := by
  intro element set metadata root turned
  have hexchanged : Exchanged ⟨[root.toNode]⟩ ⟨[turned.toNode]⟩ root set metadata := by
    refine ⟨[], [], [.text " "], [], [], ?_, rfl, rfl, rfl⟩
    simp [Node.element?]
  have hapart : ∀ name ∈ declaringNames, ¬ (set.Has name ∧ metadata.Has name) := by
    unfold Element.Has
    decide +kernel
  exact ⟨hexchanged, rfl, rfl, hapart, (ofDocument_exchange hexchanged rfl rfl hapart).2.2.2⟩

end CollectionProfile
