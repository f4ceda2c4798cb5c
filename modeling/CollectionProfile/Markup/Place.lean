import CollectionProfile.Markup.Node

/-!
# Places in a document

A place is an element together with the elements around it, the nearest first, up to where the
search set out. Searches look for elements by their local names and keep document
order.
-/

namespace CollectionProfile.Markup

/-- An element and the elements around it, the nearest first. -/
structure Place where
  element : Element
  around : List Element
deriving Repr, Inhabited

namespace Place

mutual

/-- The places of the elements in a node that has the elements `around` around it. -/
def ofNode (around : List Element) : Node → List Place
  | .element name attributes children =>
    ⟨⟨name, attributes, children⟩, around⟩
      :: ofNodes (⟨name, attributes, children⟩ :: around) children
  | _ => []

/-- The places of the elements in a run of nodes that have the elements `around` around them. -/
def ofNodes (around : List Element) : List Node → List Place
  | [] => []
  | node :: rest => ofNode around node ++ ofNodes around rest

end

/-- The local name of the element. -/
def tag (place : Place) : String := place.element.tag

end Place

namespace Element

/-- The places of the elements below an element. What is around them ends before that element. -/
def below (element : Element) : List Place := Place.ofNodes [] element.children

/-- The elements below an element that have the given name. -/
def descendants (element : Element) (name : String) : List Element :=
  (element.below.filter (·.tag = name)).map (·.element)

/-- The elements right under an element that have the given name. -/
def childrenNamed (element : Element) (name : String) : List Element :=
  (element.children.filterMap Node.element?).filter (·.tag = name)

/-- The first element below an element that has the given name. -/
def firstDescendant? (element : Element) (name : String) : Option Element :=
  (element.descendants name).head?

/-- The places below an element that have the given name and belong to the element itself rather
than to an element of the same kind further in. -/
def ownedPlaces (owner : Element) (name : String) : List Place :=
  owner.below.filter fun place => place.tag = name && place.around.all (·.tag ≠ owner.tag)

/-- The elements below an element that have the given name and belong to the element itself. -/
def owned (owner : Element) (name : String) : List Element :=
  (owner.ownedPlaces name).map (·.element)

/-- The text of the first element below an element that has the given name. -/
def firstText? (element : Element) (name : String) : Option String :=
  (element.firstDescendant? name).map (·.text)

end Element

namespace Document

/-- The places of all elements of a document. -/
def places (document : Document) : List Place := Place.ofNodes [] document.nodes

/-- The places in a document that have the given name. -/
def placesNamed (document : Document) (name : String) : List Place :=
  document.places.filter (·.tag = name)

end Document

end CollectionProfile.Markup
