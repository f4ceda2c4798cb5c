import CollectionProfile.Markup.Namespace

/-!
# Growing a document tree

A document tree is built in document order. What has been built so far is a growth: the open
elements, the innermost first, and beside each of them the nodes that are finished on its level. A
growth also holds the attributes that wait for the end of a tag. A tag that breaks off leaves its
attributes to the next tag that ends.
-/

namespace CollectionProfile.Markup

/-- An element whose end tag has not been met. -/
structure OpenElement where
  /-- The name as it is written, which the end tag has to repeat. -/
  written : QualifiedName
  name : ExpandedName
  attributes : List Attribute
  /-- What qualifiers stand for inside the element. -/
  scope : Scope
  /-- The nodes before the element on its own level, the nearest first. -/
  before : List Node
deriving Repr, Inhabited

/-- What has been built of a document tree so far. -/
structure Growth where
  /-- The open elements, the innermost first. -/
  spine : List OpenElement := []
  /-- The nodes that are finished on the innermost level, the nearest first. -/
  nodes : List Node := []
  /-- The attributes whose tag has not ended. -/
  gathered : Gathered := {}
deriving Repr, Inhabited

namespace Growth

/-- What qualifiers stand for at the place that has been reached. -/
def scope (growth : Growth) : Scope := (growth.spine.head?.map (·.scope)).getD []

/-- The growth with one more node. -/
def push (growth : Growth) (node : Node) : Growth := { growth with nodes := node :: growth.nodes }

/-- The growth with one more attribute that waits for the end of its tag. -/
def gather (growth : Growth) (value : NamedValue) : Except Fault Growth := do
  return { growth with gathered := ← growth.gathered.add value }

/-- The growth inside a new element, which takes the waiting attributes. -/
def enter (growth : Growth) (name : QualifiedName) : Except Fault Growth := do
  let (scope, attributes) ← growth.scope.enter growth.gathered
  -- The element itself already stands in the scope that its attributes open.
  let opened : OpenElement :=
    { written := name, name := ← scope.elementName name, attributes, scope,
      before := growth.nodes }
  return { spine := opened :: growth.spine }

/-- The growth after the innermost element, whose end tag has the given name. Attributes that wait
are checked and dropped. -/
def leave (growth : Growth) (name : QualifiedName) : Except Fault Growth := do
  let _ ← growth.scope.enter growth.gathered
  match growth.spine with
  | [] => .error (.unexpectedClose name.text)
  | innermost :: outer =>
    ensure (innermost.written = name) (.unexpectedClose name.text)
    let element := .element innermost.name innermost.attributes growth.nodes.reverse
    return { spine := outer, nodes := element :: innermost.before }

/-- The growth after an element without content. -/
def pushEmpty (growth : Growth) (name : QualifiedName) : Except Fault Growth := do
  (← growth.enter name).leave name

/-- The nodes outside all elements, once nothing is open any more. -/
def finish (growth : Growth) : Except Fault (List Node) :=
  match growth.spine with
  | [] => .ok growth.nodes.reverse
  | innermost :: _ => .error (.unclosed innermost.written.text)

end Growth

end CollectionProfile.Markup
