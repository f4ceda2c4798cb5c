import CollectionProfile.Proofs.Markup.Place
import CollectionProfile.Proofs.Markup.RoundTrip

/-!
# Searching read blocks

Searches for elements in what was read of a block find what was read of the blocks inside it; the
texts of the layout are passed over.
-/

namespace CollectionProfile.Markup

namespace Block

/-- The element that is read where a block was written. -/
def element (level : Nat) (block : Block) : Element where
  name := ⟨none, block.name⟩
  attributes := readAttributes block.attributes
  children := textNodes (block.text.getD "").toList
    ++ innerNodes (level + 1) block.text.isSome block.children
    ++ breakNodes level block.children.isEmpty

theorem node_eq_toNode (level : Nat) (block : Block) :
    block.node level = (block.element level).toNode := node_eq level block

theorem filterMap_textNodes (text : List Char) : (textNodes text).filterMap Node.element? = [] := by
  unfold textNodes
  split <;> rfl

theorem filterMap_breakNodes (level : Nat) (omitted : Bool) :
    (breakNodes level omitted).filterMap Node.element? = [] := by
  cases omitted
  · exact filterMap_textNodes (lineBreak level)
  · rfl

theorem filterMap_innerNodes (level : Nat) (afterText : Bool) (children : List Block) :
    (innerNodes level afterText children).filterMap Node.element?
      = children.map (element level) := by
  induction children generalizing afterText with
  | nil => rfl
  | cons child rest ih =>
    rw [innerNodes, List.filterMap_append, filterMap_breakNodes, node_eq_toNode]
    simp [Element.toNode, Node.element?, ih]

theorem childrenNamed_element (level : Nat) (block : Block) (name : String) :
    (block.element level).childrenNamed name
      = (block.children.filter (·.name = name)).map (element (level + 1)) := by
  rw [Element.childrenNamed, element, List.filterMap_append, List.filterMap_append,
    filterMap_textNodes, filterMap_innerNodes, filterMap_breakNodes, List.nil_append,
    List.append_nil, List.filter_map]
  rfl

theorem ofNodes_textNodes (around : List Element) (text : List Char) :
    Place.ofNodes around (textNodes text) = [] := by
  unfold textNodes
  split <;> rfl

theorem ofNodes_breakNodes (around : List Element) (level : Nat) (omitted : Bool) :
    Place.ofNodes around (breakNodes level omitted) = [] := by
  cases omitted
  · exact ofNodes_textNodes around (lineBreak level)
  · rfl

theorem ofNodes_innerNodes (around : List Element) (level : Nat) (afterText : Bool)
    (children : List Block) :
    Place.ofNodes around (innerNodes level afterText children)
      = children.flatMap fun child => Place.ofNode around (child.node level) := by
  induction children generalizing afterText with
  | nil => rfl
  | cons child rest ih =>
    rw [innerNodes, ofNodes_append, ofNodes_breakNodes, List.nil_append, Place.ofNodes, ih,
      List.flatMap_cons]

theorem ofNodes_children (around : List Element) (level : Nat) (block : Block) :
    Place.ofNodes around (block.element level).children
      = block.children.flatMap fun child => Place.ofNode around (child.node (level + 1)) := by
  rw [element, ofNodes_append, ofNodes_append, ofNodes_textNodes, ofNodes_innerNodes,
    ofNodes_breakNodes, List.nil_append, List.append_nil]

theorem ofNode_node (around : List Element) (level : Nat) (block : Block) :
    Place.ofNode around (block.node level) = ⟨block.element level, around⟩
      :: block.children.flatMap fun child =>
        Place.ofNode (block.element level :: around) (child.node (level + 1)) := by
  rw [← ofNodes_children, node_eq_toNode, Element.toNode, Place.ofNode]

/-- What an element with only a text is read as showing. -/
theorem text_element_ofText (level : Nat) (name text : String) :
    (element level (.ofText name text)).text = String.ofList (settledText false text.toList) := by
  rw [← textContents_textNodes, Element.text]
  congr 1
  exact (List.append_nil _).trans (List.append_nil _)

end Block

end CollectionProfile.Markup
