import CollectionProfile.Markup.Name
import CollectionProfile.Markup.Node
import CollectionProfile.Markup.Scan

/-!
# Namespaces

A scope knows which namespace each qualifier stands for. The attributes of a tag are gathered one by
one; entering an element adds the bindings that they declare and resolves the others
(`Scope.enter`).
-/

namespace CollectionProfile.Markup

/-- The namespace that the qualifier `xml` always stands for. -/
def xmlSpace : String := "http://www.w3.org/XML/1998/namespace"

/-- The namespace of declarations, which nothing may be bound to. -/
def declarationSpace : String := "http://www.w3.org/2000/xmlns/"

/-- The qualifier of declarations, and the name of the declaration without a qualifier. -/
def declarationName : String := "xmlns"

/-- An attribute whose value has been read and whose name is still as it is written. -/
structure NamedValue where
  name : QualifiedName
  value : String
deriving DecidableEq, Repr, Inhabited

/-- The bindings of qualifiers to namespaces, the innermost first. The empty qualifier is bound to
the default namespace. -/
abbrev Scope := List (String × String)

namespace Scope

/-- Whether an attribute declares a binding rather than being an attribute of the element. -/
def isDeclaration (name : QualifiedName) : Bool :=
  name.qualifier = declarationName || name.localName = declarationName

/-- The bindings declared so far on an element, with one more declaration. -/
def declare (own : Scope) (declaration : NamedValue) : Except Fault Scope :=
  let ⟨name, space⟩ := declaration
  if space = declarationSpace then .error .reservedSpace
  else if name.qualifier = declarationName then
    if name.localName = "xml" then
      if space = xmlSpace then .ok own else .error .reservedSpace
    else if space = xmlSpace then .error .reservedSpace
    else if own.any (·.1 = name.localName) then .error (.duplicateSpace name.localName)
    else .ok (own ++ [(name.localName, space)])
  else if space = xmlSpace then .error .reservedSpace
  else .ok (own ++ [("", space)])

/-- The namespace that a qualifier stands for; only the empty qualifier may be unbound. -/
def resolve (scope : Scope) (qualifier : String) : Except Fault (Option String) :=
  match scope.lookup qualifier with
  | some space => .ok (some space)
  | none => if qualifier = "" then .ok none else .error (.undeclaredPrefix qualifier)

/-- The resolved name of an element. -/
def elementName (scope : Scope) (name : QualifiedName) : Except Fault ExpandedName := do
  return ⟨← scope.resolve name.qualifier, name.localName⟩

/-- The resolved name of an attribute. Without a qualifier it is in no namespace. -/
def attributeName (scope : Scope) (name : QualifiedName) : Except Fault ExpandedName :=
  if name.qualifier = "" then .ok ⟨none, name.localName⟩
  else if name.qualifier = "xml" then .ok ⟨some xmlSpace, name.localName⟩
  else do return ⟨← scope.resolve name.qualifier, name.localName⟩

/-- The attributes with resolved names, no two of which may be the same. -/
def attributes (scope : Scope) (values : List NamedValue) : Except Fault (List Attribute) :=
  values.foldlM (fun found value => do
    let name ← scope.attributeName value.name
    ensure (found.all (·.name ≠ name)) (.duplicateAttribute name.localName)
    return found ++ [⟨name, value.value⟩]) []

end Scope

/-- What attributes come to whose element is not yet known. -/
structure Gathered where
  /-- The bindings that they declare. -/
  declared : Scope := []
  /-- Those that are no declarations. -/
  values : List NamedValue := []
deriving DecidableEq, Repr, Inhabited

/-- What attributes come to with one more of them. -/
def Gathered.add (gathered : Gathered) (value : NamedValue) : Except Fault Gathered := do
  if Scope.isDeclaration value.name then
    return { gathered with declared := ← Scope.declare gathered.declared value }
  else return { gathered with values := gathered.values ++ [value] }

/-- The scope inside an element with the given attributes, and those of them that are no
declarations. -/
def Scope.enter (scope : Scope) (gathered : Gathered) :
    Except Fault (Scope × List Attribute) := do
  let inner := gathered.declared ++ scope
  return (inner, ← inner.attributes gathered.values)

end CollectionProfile.Markup
