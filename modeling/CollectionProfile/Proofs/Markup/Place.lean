import CollectionProfile.Markup.Place

/-!
# Where elements occur

`Occurs` says, without a search, that an element stands in a run of nodes and which elements are
around it. The places of a run are exactly the occurrences in it (`mem_ofNodes_iff`), and an
occurrence under an element is an occurrence of that element together with one below it
(`occurs_append_cons_iff`).
-/

namespace CollectionProfile.Markup

/-- An element that occurs in a run of nodes, with the elements around it, the nearest first. -/
inductive Occurs (nodes : List Node) : Element → List Element → Prop
  /-- In no other element. -/
  | outer {element : Element} (h : element.toNode ∈ nodes) : Occurs nodes element []
  /-- Right under an element that occurs. -/
  | inner {element parent : Element} {around : List Element} (hparent : Occurs nodes parent around)
    (h : element.toNode ∈ parent.children) : Occurs nodes element (parent :: around)

namespace Occurs

theorem nil_iff {nodes : List Node} {element : Element} :
    Occurs nodes element [] ↔ element.toNode ∈ nodes := by
  constructor
  · intro h
    cases h with
    | outer h => exact h
  · exact .outer

theorem cons_iff {nodes : List Node} {element parent : Element} {around : List Element} :
    Occurs nodes element (parent :: around) ↔
      Occurs nodes parent around ∧ element.toNode ∈ parent.children := by
  constructor
  · intro h
    cases h with
    | inner hparent h => exact ⟨hparent, h⟩
  · rintro ⟨hparent, h⟩
    exact .inner hparent h

/-- An element of the chain occurs itself, and what is nearer than it is an occurrence below it. -/
theorem append_cons_iff {nodes : List Node} {element owner : Element}
    {inside base : List Element} :
    Occurs nodes element (inside ++ owner :: base) ↔
      Occurs nodes owner base ∧ Occurs owner.children element inside := by
  induction inside generalizing element with
  | nil => rw [List.nil_append, cons_iff, nil_iff]
  | cons parent rest ih => rw [List.cons_append, cons_iff, ih, cons_iff, and_assoc]

theorem mono {nodes nodes' : List Node} {element : Element} {around : List Element}
    (h : Occurs nodes element around) (hsub : ∀ node ∈ nodes, node ∈ nodes') :
    Occurs nodes' element around := by
  induction h with
  | outer h => exact .outer (hsub _ h)
  | inner _ h ih => exact .inner ih h

end Occurs

/-! ### Places are occurrences -/

mutual

theorem occurs_of_mem_ofNode {around : List Element} {node : Node} {place : Place}
    (h : place ∈ Place.ofNode around node) :
    ∃ inside, place.around = inside ++ around ∧ Occurs [node] place.element inside := by
  match node with
  | .element name attributes children =>
    rw [Place.ofNode] at h
    rcases List.mem_cons.1 h with rfl | h
    · exact ⟨[], rfl, .outer List.mem_cons_self⟩
    · obtain ⟨inside, haround, hoccurs⟩ := occurs_of_mem_ofNodes h
      refine ⟨inside ++ [⟨name, attributes, children⟩], by simp [haround], ?_⟩
      exact Occurs.append_cons_iff.2 ⟨.outer List.mem_cons_self, hoccurs⟩
  | .text _ | .comment _ | .instruction _ _ => simp [Place.ofNode] at h

theorem occurs_of_mem_ofNodes {around : List Element} {nodes : List Node} {place : Place}
    (h : place ∈ Place.ofNodes around nodes) :
    ∃ inside, place.around = inside ++ around ∧ Occurs nodes place.element inside := by
  match nodes with
  | [] => simp [Place.ofNodes] at h
  | node :: rest =>
    rw [Place.ofNodes, List.mem_append] at h
    rcases h with h | h
    · obtain ⟨inside, haround, hoccurs⟩ := occurs_of_mem_ofNode h
      exact ⟨inside, haround, hoccurs.mono (by simp)⟩
    · obtain ⟨inside, haround, hoccurs⟩ := occurs_of_mem_ofNodes h
      exact ⟨inside, haround, hoccurs.mono fun _ => List.mem_cons_of_mem node⟩

end

mutual

/-- The places below an element that is found are found. -/
theorem mem_ofNode_of_below {around chain : List Element} {node : Node} {owner : Element}
    (h : ⟨owner, chain⟩ ∈ Place.ofNode around node) {place : Place}
    (hbelow : place ∈ Place.ofNodes (owner :: chain) owner.children) :
    place ∈ Place.ofNode around node := by
  match node with
  | .element name attributes children =>
    rw [Place.ofNode] at h ⊢
    rcases List.mem_cons.1 h with heq | h
    · obtain ⟨rfl, rfl⟩ := Place.mk.inj heq
      exact List.mem_cons_of_mem _ hbelow
    · exact List.mem_cons_of_mem _ (mem_ofNodes_of_below h hbelow)
  | .text _ | .comment _ | .instruction _ _ => simp [Place.ofNode] at h

theorem mem_ofNodes_of_below {around chain : List Element} {nodes : List Node} {owner : Element}
    (h : ⟨owner, chain⟩ ∈ Place.ofNodes around nodes) {place : Place}
    (hbelow : place ∈ Place.ofNodes (owner :: chain) owner.children) :
    place ∈ Place.ofNodes around nodes := by
  match nodes with
  | [] => simp [Place.ofNodes] at h
  | node :: rest =>
    rw [Place.ofNodes, List.mem_append] at h ⊢
    rcases h with h | h
    · exact .inl (mem_ofNode_of_below h hbelow)
    · exact .inr (mem_ofNodes_of_below h hbelow)

end

theorem mem_ofNodes_of_mem {around : List Element} {nodes : List Node} {element : Element}
    (h : element.toNode ∈ nodes) : ⟨element, around⟩ ∈ Place.ofNodes around nodes := by
  induction nodes with
  | nil => simp at h
  | cons node rest ih =>
    rw [Place.ofNodes, List.mem_append]
    rcases List.mem_cons.1 h with rfl | h
    · refine .inl ?_
      rw [Element.toNode, Place.ofNode]
      exact List.mem_cons_self
    · exact .inr (ih h)

theorem mem_ofNodes_of_occurs {around : List Element} {nodes : List Node} {element : Element}
    {inside : List Element} (h : Occurs nodes element inside) :
    ⟨element, inside ++ around⟩ ∈ Place.ofNodes around nodes := by
  induction h with
  | outer h => exact mem_ofNodes_of_mem h
  | inner _ h ih => exact mem_ofNodes_of_below ih (mem_ofNodes_of_mem h)

/-- The places of a document are the occurrences of elements in it. -/
theorem Document.mem_places_iff {document : Document} {place : Place} :
    place ∈ document.places ↔ Occurs document.nodes place.element place.around := by
  constructor
  · intro h
    obtain ⟨inside, haround, hoccurs⟩ := occurs_of_mem_ofNodes h
    rw [haround, List.append_nil]
    exact hoccurs
  · intro h
    have hmem := @mem_ofNodes_of_occurs [] _ _ _ h
    rwa [List.append_nil] at hmem

/-- The places below an element are the occurrences of elements in its children. -/
theorem Element.mem_below_iff {element : Element} {place : Place} :
    place ∈ element.below ↔ Occurs element.children place.element place.around :=
  @Document.mem_places_iff ⟨element.children⟩ place

theorem Document.mem_placesNamed_iff {document : Document} {name : String} {place : Place} :
    place ∈ document.placesNamed name ↔
      Occurs document.nodes place.element place.around ∧ place.element.tag = name := by
  rw [placesNamed, List.mem_filter, mem_places_iff, decide_eq_true_iff, Place.tag]

theorem Element.mem_descendants_iff {owner element : Element} {name : String} :
    element ∈ owner.descendants name ↔
      ∃ inside, Occurs owner.children element inside ∧ element.tag = name := by
  simp only [descendants, List.mem_map, List.mem_filter, mem_below_iff, decide_eq_true_iff]
  constructor
  · rintro ⟨place, ⟨hoccurs, htag⟩, rfl⟩
    exact ⟨place.around, hoccurs, htag⟩
  · rintro ⟨inside, hoccurs, htag⟩
    exact ⟨⟨element, inside⟩, ⟨hoccurs, htag⟩, rfl⟩

/-! ### The nearest element of a name -/

/-- The nearest element of a name around an occurrence splits it at that element. -/
theorem Occurs.find?_iff {nodes : List Node} {element owner : Element} {around : List Element}
    {tag : String} :
    Occurs nodes element around ∧ around.find? (·.tag = tag) = some owner ↔
      ∃ inside base, around = inside ++ owner :: base ∧ owner.tag = tag ∧
        (∀ between ∈ inside, between.tag ≠ tag) ∧ Occurs nodes owner base ∧
        Occurs owner.children element inside := by
  constructor
  · rintro ⟨hoccurs, hfind⟩
    obtain ⟨htag, inside, base, rfl, hinside⟩ := List.find?_eq_some_iff_append.1 hfind
    refine ⟨inside, base, rfl, of_decide_eq_true htag, fun between hmem => ?_,
      append_cons_iff.1 hoccurs⟩
    simpa using hinside between hmem
  · rintro ⟨inside, base, rfl, htag, hinside, hoccurs⟩
    refine ⟨append_cons_iff.2 hoccurs, List.find?_eq_some_iff_append.2 ?_⟩
    exact ⟨decide_eq_true htag, inside, base, rfl, fun between hmem => by
      simpa using hinside between hmem⟩

theorem Element.mem_ownedPlaces_iff {owner : Element} {name : String} {place : Place} :
    place ∈ owner.ownedPlaces name ↔
      Occurs owner.children place.element place.around ∧ place.element.tag = name ∧
        ∀ between ∈ place.around, between.tag ≠ owner.tag := by
  rw [ownedPlaces, List.mem_filter, mem_below_iff, Bool.and_eq_true, decide_eq_true_iff,
    List.all_eq_true, Place.tag]
  simp only [ne_eq, decide_not, Bool.not_eq_eq_eq_not, Bool.not_true, decide_eq_false_iff_not]

/-! ### Runs of nodes -/

theorem ofNodes_append (around : List Element) (front back : List Node) :
    Place.ofNodes around (front ++ back) = Place.ofNodes around front ++ Place.ofNodes around back := by
  induction front with
  | nil => rfl
  | cons node rest ih => rw [List.cons_append, Place.ofNodes, Place.ofNodes, ih, List.append_assoc]

theorem ofNodes_eq_nil {around : List Element} {nodes : List Node}
    (h : ∀ node ∈ nodes, node.element? = none) : Place.ofNodes around nodes = [] := by
  induction nodes with
  | nil => rfl
  | cons node rest ih =>
    rw [List.forall_mem_cons] at h
    rw [Place.ofNodes, ih h.2, List.append_nil]
    cases node with
    | element name attributes children => cases h.1
    | _ => rfl

/-- The place as seen from further out, with more elements around it. -/
def Place.within (place : Place) (outer : List Element) : Place :=
  ⟨place.element, place.around ++ outer⟩

mutual

theorem ofNode_append_around (inner outer : List Element) (node : Node) :
    Place.ofNode (inner ++ outer) node = (Place.ofNode inner node).map (·.within outer) := by
  match node with
  | .element name attributes children =>
    rw [Place.ofNode, Place.ofNode, List.map_cons, ← List.cons_append, ofNodes_append_around]
    rfl
  | .text _ | .comment _ | .instruction _ _ => rfl

/-- What is around a run of nodes is around every place in it, outside of all else. -/
theorem ofNodes_append_around (inner outer : List Element) (nodes : List Node) :
    Place.ofNodes (inner ++ outer) nodes = (Place.ofNodes inner nodes).map (·.within outer) := by
  match nodes with
  | [] => rfl
  | node :: rest =>
    rw [Place.ofNodes, Place.ofNodes, List.map_append, ofNode_append_around, ofNodes_append_around]

end

theorem filter_ofNodes_around (outer : List Element) (nodes : List Node) (name : String) :
    (Place.ofNodes outer nodes).filter (·.tag = name)
      = ((Place.ofNodes [] nodes).filter (·.tag = name)).map (·.within outer) := by
  have haround := ofNodes_append_around [] outer nodes
  rw [List.nil_append] at haround
  rw [haround, List.filter_map]
  rfl

/-! ### Counting -/

namespace Node

mutual

/-- The number of elements of a name in a node, itself included. -/
def tagCount (tag : String) : Node → Nat
  | .element name _ children => (if name.localName = tag then 1 else 0) + tagCounts tag children
  | _ => 0

/-- The number of elements of a name in a run of nodes. -/
def tagCounts (tag : String) : List Node → Nat
  | [] => 0
  | node :: rest => tagCount tag node + tagCounts tag rest

end

end Node

mutual

theorem countP_ofNode (tag : String) (around : List Element) (node : Node) :
    (Place.ofNode around node).countP (·.tag = tag) = node.tagCount tag := by
  match node with
  | .element name attributes children =>
    rw [Place.ofNode, List.countP_cons, countP_ofNodes, Node.tagCount, Nat.add_comm]
    by_cases h : name.localName = tag <;> simp [Place.tag, Element.tag, h]
  | .text _ | .comment _ | .instruction _ _ => rfl

theorem countP_ofNodes (tag : String) (around : List Element) (nodes : List Node) :
    (Place.ofNodes around nodes).countP (·.tag = tag) = Node.tagCounts tag nodes := by
  match nodes with
  | [] => rw [Place.ofNodes, Node.tagCounts, List.countP_nil]
  | node :: rest =>
    rw [Place.ofNodes, List.countP_append, countP_ofNode, countP_ofNodes, Node.tagCounts]

end

/-- A document has one place of a name for each element of the name. -/
theorem Document.length_placesNamed (document : Document) (tag : String) :
    (document.placesNamed tag).length = Node.tagCounts tag document.nodes := by
  rw [placesNamed, ← List.countP_eq_length_filter, places, countP_ofNodes]

end CollectionProfile.Markup
