/-!
# Document trees

The tree that reading a document yields: elements with resolved names and attributes, and between
them texts, comments and processing instructions. A document is the nodes that stand outside all
elements: the root element, and beside it whatever follows where the value of an entity closes the
root early.
-/

namespace CollectionProfile.Markup

/-- A name together with the namespace it is in. -/
structure ExpandedName where
  space : Option String
  localName : String
deriving DecidableEq, Repr, Inhabited

/-- An attribute of an element. -/
structure Attribute where
  name : ExpandedName
  value : String
deriving DecidableEq, Repr, Inhabited

/-- A node of a document tree. -/
inductive Node
  | element (name : ExpandedName) (attributes : List Attribute) (children : List Node)
  | text (content : String)
  | comment (content : String)
  | instruction (target content : String)
deriving Repr, Inhabited

/-- An element on its own. -/
structure Element where
  name : ExpandedName
  attributes : List Attribute
  children : List Node
deriving Repr, Inhabited

namespace Node

/-- The node as an element, if it is one. -/
def element? : Node → Option Element
  | .element name attributes children => some ⟨name, attributes, children⟩
  | _ => none

mutual

/-- All text in a node, in document order. -/
def textContent : Node → String
  | .element _ _ children => textContents children
  | .text content => content
  | _ => ""

/-- All text in a run of nodes, in document order. -/
def textContents : List Node → String
  | [] => ""
  | node :: rest => textContent node ++ textContents rest

end

end Node

namespace Element

/-- The element as a node. -/
def toNode (element : Element) : Node := .element element.name element.attributes element.children

/-- The local name, by which elements are looked up whatever namespace they are in. -/
def tag (element : Element) : String := element.name.localName

/-- The value of the attribute of this name that is in no namespace. -/
def attribute? (element : Element) (name : String) : Option String :=
  (element.attributes.find? (·.name = ⟨none, name⟩)).map (·.value)

/-- The value of an attribute, empty where it is missing. -/
def attributeText (element : Element) (name : String) : String := (element.attribute? name).getD ""

/-- The value of an attribute, unless it is missing or empty. -/
def filled? (element : Element) (name : String) : Option String :=
  (element.attribute? name).filter (· ≠ "")

/-- All text in the element, in document order. -/
def text (element : Element) : String := Node.textContents element.children

end Element

/-- A document that has been read. -/
structure Document where
  /-- The nodes that are in no element. -/
  nodes : List Node
deriving Repr, Inhabited

/-- The root element of a document, the first of the elements that are in no other. -/
def Document.root? (document : Document) : Option Element :=
  (document.nodes.filterMap Node.element?).head?

end CollectionProfile.Markup
