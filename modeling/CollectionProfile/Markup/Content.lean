import CollectionProfile.Markup.Expansion
import CollectionProfile.Markup.Growth
import CollectionProfile.Markup.LineEnd
import CollectionProfile.Markup.Token

/-!
# Reading content

Content is read token by token, and every token makes the document tree grow. The value of an entity
is read as a stretch of content of its own, which works on the same tree: it may close elements that
were open before it, and leave elements open for what follows it.
-/

namespace CollectionProfile.Markup

/-- How a stretch of content is read. -/
structure Reading where
  /-- Whether the stretch is the value of an entity. -/
  inEntity : Bool
  /-- The value of an attribute. -/
  value : List Char → Expansion (List Char)
  /-- The growth after what an entity stands for. -/
  entity : Growth → String → Expansion Growth

namespace Reading

/-- The growth after one segment of a text. -/
def takeSegment (reading : Reading) (growth : Growth) : Segment → Expansion Growth
  | .text content => pure (growth.push (.text (String.ofList content)))
  | .entity name => reading.entity growth name

/-- The growth after one attribute of a tag. -/
def takeAttribute (reading : Reading) (growth : Growth) (raw : RawAttribute) :
    Expansion Growth := do
  growth.gather ⟨raw.name, String.ofList (← reading.value raw.value)⟩

/-- The growth after one token. `hasTag` says whether a tag came before it in the same stretch:
without one, there is nothing that an end tag could close. -/
def take (reading : Reading) (hasTag : Bool) (growth : Growth) : Token → Expansion Growth
  | .tag kind name attributes => do
    ensure (name.qualifier ≠ declarationName) .reservedSpace
    let growth ← attributes.foldlM reading.takeAttribute growth
    match kind with
    | .opening => growth.enter name
    | .empty => growth.pushEmpty name
    | .broken => return growth
  | .endTag name => do
    ensure hasTag (.unexpectedClose name.text)
    growth.leave name
  | .text raw => do
    let segments := Segment.ofPieces reading.inEntity (← Piece.scanAll raw)
    segments.foldlM reading.takeSegment growth
  | .literal content => pure (growth.push (.text (String.ofList (Segment.settleLiteral content))))
  | .comment content => pure (growth.push (.comment (String.ofList content)))
  | .instruction target content =>
    pure (growth.push (.instruction (String.ofList target) (String.ofList content)))

end Reading

namespace Token

/-- Whether the token is a tag other than an end tag. -/
def isTag : Token → Bool
  | .tag .. => true
  | _ => false

/-- How many end tags a stretch may still hold before the one that ends it, where it could hold
`inner` of them before the token; nothing if the token ends the stretch. -/
def innerAfter? (inner : Nat) : Token → Option Nat
  | .tag .opening .. => some (inner + 1)
  | .endTag _ => inner.casesOn none some
  | _ => some inner

end Token

/-- The growth after a stretch of content, and the text after the stretch. A stretch ends with the
end tag that its own tags leave over, or else with the text. -/
def readContent (reading : Reading) (inner : Nat) (hasTag : Bool) (growth : Growth)
    (text : List Char) : Expansion (Growth × List Char) :=
  if hne : text = [] then return (growth, [])
  else match h : Token.scan text with
    | .error fault => throw fault
    | .ok (token, rest) => do
      have := Token.length_lt_of_scan hne h
      let growth ← reading.take hasTag growth token
      match token.innerAfter? inner with
      | some inner => readContent reading inner (hasTag || token.isTag) growth rest
      | none => return (growth, rest)
termination_by text.length

/-- The reading in which references may nest as deep as given. What stands in the value of an entity
after the end of the stretch is never read. -/
def Reading.ofEntities (entities : Entities) : Nat → Bool → Reading
  | 0, inEntity =>
    { inEntity
      value := Expansion.attributeValue entities 0 inEntity
      entity := fun _ _ => throw .referencesTooDeep }
  | depth + 1, inEntity =>
    { inEntity
      value := Expansion.attributeValue entities (depth + 1) inEntity
      entity := fun growth name => do
        let value ← Expansion.valueOf entities name
        Expansion.spend inEntity do
          return (← readContent (ofEntities entities depth true) 0 false growth value).1 }

/-- The growth after the root element of a document, and the text after it. -/
def readRoot (reading : Reading) (text : List Char) : Expansion (Growth × List Char) := do
  let (token, rest) ← Token.scan text
  ensure token.isTag .noRoot
  let growth ← reading.take false {} token
  match token.innerAfter? 0 with
  | some (_ + 1) => readContent reading 0 true growth rest
  | _ => return (growth, rest)

end CollectionProfile.Markup
