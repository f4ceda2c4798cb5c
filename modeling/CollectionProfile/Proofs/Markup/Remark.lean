import CollectionProfile.Proofs.Markup.Place
import Mathlib.Logic.Relation

/-!
# Comments and processing instructions

Documents that differ in their comments and processing instructions alone, wherever these stand and
however they cut texts into pieces (`Document.SameButRemarks`). Such documents have one bare form
(`Document.SameButRemarks.bare_eq`), in which there are no remarks and every text is cut into its
characters, so that it does not show where texts were cut before. Every search finds in the bare
form what it finds in the document, made bare.
-/

namespace CollectionProfile.Markup

/-- Whether the node is a comment or a processing instruction. -/
def Node.isRemark : Node → Bool
  | .comment _ | .instruction _ _ => true
  | .element _ _ _ | .text _ => false

/-- The second run of nodes has one comment or processing instruction more than the first. -/
inductive AddsRemark : List Node → List Node → Prop
  /-- Between two nodes, or at either end. -/
  | between (front back : List Node) {remark : Node} (h : remark.isRemark = true) :
    AddsRemark (front ++ back) (front ++ remark :: back)
  /-- Inside a text, which is cut in two. -/
  | cutting (front back : List Node) (before after : String) {remark : Node}
    (h : remark.isRemark = true) :
    AddsRemark (front ++ .text (before ++ after) :: back)
      (front ++ .text before :: remark :: .text after :: back)
  /-- Inside an element. -/
  | inside (front back : List Node) (name : ExpandedName) (attributes : List Attribute)
    {children children' : List Node} (h : AddsRemark children children') :
    AddsRemark (front ++ .element name attributes children :: back)
      (front ++ .element name attributes children' :: back)

/-- The documents become the same when comments and processing instructions are put in and taken
out, any number of either. -/
def Document.SameButRemarks (document edited : Document) : Prop :=
  Relation.EqvGen (fun first second : Document => AddsRemark first.nodes second.nodes)
    document edited

/-! ### The bare form -/

mutual

/-- A node without remarks and with texts cut into characters. -/
def Node.bare : Node → List Node
  | .element name attributes children => [.element name attributes (Node.bares children)]
  | .text content => content.toList.map fun char => .text (String.singleton char)
  | .comment _ | .instruction _ _ => []

/-- A run of nodes without remarks and with texts cut into characters. -/
def Node.bares : List Node → List Node
  | [] => []
  | node :: rest => Node.bare node ++ Node.bares rest

end

def Element.bare (element : Element) : Element :=
  { element with children := Node.bares element.children }

def Place.bare (place : Place) : Place := ⟨place.element.bare, place.around.map Element.bare⟩

def Document.bare (document : Document) : Document := ⟨Node.bares document.nodes⟩

theorem Node.bares_append (front back : List Node) :
    bares (front ++ back) = bares front ++ bares back := by
  induction front with
  | nil => rfl
  | cons node rest ih => rw [List.cons_append, bares, bares, ih, List.append_assoc]

theorem Node.bare_of_isRemark {remark : Node} (h : remark.isRemark = true) : remark.bare = [] := by
  cases remark with
  | comment content => rfl
  | instruction target content => rfl
  | element name attributes children => cases h
  | text content => cases h

/-- One remark more makes no difference to the bare form. -/
theorem AddsRemark.bares_eq {nodes nodes' : List Node} (h : AddsRemark nodes nodes') :
    Node.bares nodes = Node.bares nodes' := by
  induction h with
  | between front back h =>
    rw [Node.bares_append, Node.bares_append, Node.bares, Node.bare_of_isRemark h, List.nil_append]
  | cutting front back before after h =>
    simp only [Node.bares_append, Node.bares, Node.bare_of_isRemark h, Node.bare, List.nil_append,
      String.toList_append, List.map_append, List.append_assoc]
  | inside front back name attributes h ih =>
    simp only [Node.bares_append, Node.bares, Node.bare, ih]

theorem Document.SameButRemarks.bare_eq {document edited : Document}
    (h : document.SameButRemarks edited) : document.bare = edited.bare := by
  induction h with
  | rel first second h => exact congrArg Document.mk h.bares_eq
  | refl document => rfl
  | symm first second _ ih => exact ih.symm
  | trans first second third _ _ ih ih' => exact ih.trans ih'

/-! ### Texts -/

theorem Node.textContents_append (front back : List Node) :
    textContents (front ++ back) = textContents front ++ textContents back := by
  induction front with
  | nil => simp [textContents]
  | cons node rest ih => rw [List.cons_append, textContents, textContents, ih, String.append_assoc]

theorem Node.textContents_characters (characters : List Char) :
    textContents (characters.map fun char => .text (String.singleton char))
      = String.ofList characters := by
  induction characters with
  | nil => rfl
  | cons char rest ih =>
    rw [List.map_cons, textContents, ih, textContent]
    apply String.toList_injective
    simp

mutual

theorem Node.textContents_bare (node : Node) : textContents node.bare = node.textContent := by
  match node with
  | .element name attributes children =>
    rw [bare, textContents, textContent, textContents_bares, textContents, textContent]
    simp
  | .text content => rw [bare, textContents_characters, textContent, String.ofList_toList]
  | .comment _ | .instruction _ _ => rfl

theorem Node.textContents_bares (nodes : List Node) :
    textContents (bares nodes) = textContents nodes := by
  match nodes with
  | [] => rfl
  | node :: rest =>
    rw [bares, textContents_append, textContents_bare, textContents_bares, textContents]

end

/-! ### Searches -/

mutual

theorem ofNodes_bare (around : List Element) (node : Node) :
    Place.ofNodes (around.map Element.bare) node.bare
      = (Place.ofNode around node).map Place.bare := by
  match node with
  | .element name attributes children =>
    rw [Node.bare, Place.ofNodes, Place.ofNode, Place.ofNodes, List.append_nil, Place.ofNode,
      List.map_cons, ← ofNodes_bares]
    rfl
  | .text content =>
    apply ofNodes_eq_nil
    intro node hnode
    rw [Node.bare, List.mem_map] at hnode
    obtain ⟨char, -, rfl⟩ := hnode
    rfl
  | .comment _ | .instruction _ _ => rfl

/-- The places in the bare form of a run of nodes are the places in it, made bare. -/
theorem ofNodes_bares (around : List Element) (nodes : List Node) :
    Place.ofNodes (around.map Element.bare) (Node.bares nodes)
      = (Place.ofNodes around nodes).map Place.bare := by
  match nodes with
  | [] => rfl
  | node :: rest =>
    rw [Node.bares, ofNodes_append, ofNodes_bare, ofNodes_bares, Place.ofNodes, List.map_append]

end

theorem Document.placesNamed_bare (document : Document) (name : String) :
    document.bare.placesNamed name = (document.placesNamed name).map Place.bare := by
  have hplaces : document.bare.places = document.places.map Place.bare :=
    ofNodes_bares [] document.nodes
  rw [placesNamed, hplaces, List.filter_map]
  rfl

namespace Element

variable (element : Element) (name : String)

theorem text_bare : element.bare.text = element.text := Node.textContents_bares element.children

theorem below_bare : element.bare.below = element.below.map Place.bare :=
  ofNodes_bares [] element.children

theorem descendants_bare :
    element.bare.descendants name = (element.descendants name).map Element.bare := by
  rw [descendants, below_bare, List.filter_map, List.map_map, descendants, List.map_map]
  rfl

theorem firstText?_bare : element.bare.firstText? name = element.firstText? name := by
  rw [firstText?, firstDescendant?, descendants_bare, List.head?_map, Option.map_map, firstText?,
    firstDescendant?]
  apply congrArg (Option.map · _)
  funext found
  exact found.text_bare

theorem ownedPlaces_bare :
    element.bare.ownedPlaces name = (element.ownedPlaces name).map Place.bare := by
  rw [ownedPlaces, below_bare, List.filter_map, ownedPlaces]
  apply congrArg (List.map Place.bare)
  apply List.filter_congr
  intro place _
  simp only [Function.comp_apply, Place.bare, List.all_map]
  rfl

theorem owned_bare : element.bare.owned name = (element.owned name).map Element.bare := by
  rw [owned, ownedPlaces_bare, List.map_map, owned, List.map_map]
  rfl

end Element

end CollectionProfile.Markup
