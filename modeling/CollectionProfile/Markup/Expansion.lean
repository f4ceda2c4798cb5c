import CollectionProfile.Markup.Reference

/-!
# Expansion of references

References to entities are replaced by what the entities stand for. How deep references may nest
bounds the recursion; how many may occur within one outermost reference is a budget that the
expansion spends. Attribute values are expanded here; what an entity stands for in content is read
as content itself.
-/

namespace CollectionProfile.Markup

/-- The literal values of entities, in the order of their declarations. -/
abbrev Entities := List (String × List Char)

/-- An expansion that may spend references from a budget. -/
abbrev Expansion := StateT Nat (Except Fault)

namespace Expansion

/-- The references that may occur within one outermost reference. -/
def budget : Nat := 255

/-- How deep references to entities may nest. -/
def maxDepth : Nat := 10

/-- Expands one reference. Within the value of an entity it is paid for from the budget; outside it
opens a budget of its own. -/
def spend {α : Type} (inEntity : Bool) (expand : Expansion α) : Expansion α := fun left =>
  if inEntity then
    match left with
    | 0 => .error .tooManyReferences
    | left + 1 => expand left
  else
    match expand budget with
    | .ok (a, _) => .ok (a, left)
    | .error fault => .error fault

/-- The value of an entity; of several declarations the first counts. -/
def valueOf (entities : Entities) (name : String) : Except Fault (List Char) :=
  match entities.lookup name with
  | some value => .ok value
  | none => .error (.unknownEntity name)

/-- The expanded pieces of an attribute value. Each blank becomes a space, a carriage return with a
line feed after it just one; characters written as references stay unless they stand within the
value of an entity. -/
def attributePieces (inEntity : Bool) (expand : String → Expansion (List Char)) :
    List Piece → Expansion (List Char)
  | [] => pure []
  | .plain c :: rest => do
    let tail ← attributePieces inEntity expand rest
    -- The line feed that follows makes the space for both.
    if c = '\r' && rest.head? = some (.plain '\n') then return tail
    else return (if isSpace c then ' ' else c) :: tail
  | .referred c :: rest => do
    if inEntity then
      ensure (c ≠ '<') .markupInAttribute
      return (if isSpace c then ' ' else c) :: (← attributePieces inEntity expand rest)
    else return c :: (← attributePieces inEntity expand rest)
  | .entity name :: rest => do
    return (← expand name) ++ (← attributePieces inEntity expand rest)

/-- An attribute value in which references may nest as deep as given. -/
def attributeValue (entities : Entities) : Nat → Bool → List Char → Expansion (List Char)
  | 0, inEntity, raw => do
    attributePieces inEntity (fun _ => throw .referencesTooDeep) (← Piece.scanAll raw)
  | depth + 1, inEntity, raw => do
    attributePieces inEntity (fun name => do
      let value ← valueOf entities name
      spend inEntity (attributeValue entities depth true value)) (← Piece.scanAll raw)

end Expansion

end CollectionProfile.Markup
