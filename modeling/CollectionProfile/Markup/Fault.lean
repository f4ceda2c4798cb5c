/-!
# Faults of a markup document

What can be wrong with a document that is not well formed, and the wording of each fault.
-/

namespace CollectionProfile.Markup

/-- Why a text is not a well-formed document. -/
inductive Fault
  | unexpectedEnd
  | illegalCharacter (character : Char)
  | badName
  | expected (what : String)
  | unknownMarkup
  | misplacedDeclaration
  | badComment
  | sectionEndInText
  | badReference
  | unknownEntity (name : String)
  | referencesTooDeep
  | tooManyReferences
  | markupInAttribute
  | duplicateAttribute (name : String)
  | undeclaredPrefix (spacePrefix : String)
  | reservedSpace
  | duplicateSpace (spacePrefix : String)
  | unexpectedClose (name : String)
  | unclosed (name : String)
  | contentOutsideRoot
  | noRoot
deriving DecidableEq, Repr, Inhabited

/-- The wording of a fault. -/
def Fault.message : Fault → String
  | .unexpectedEnd => "unexpected end of document"
  | .illegalCharacter c => "illegal character U+" ++ String.ofList (Nat.toDigits 16 c.toNat)
  | .badName => "a name was expected"
  | .expected what => what ++ " was expected"
  | .unknownMarkup => "unknown markup"
  | .misplacedDeclaration => "the declaration must stand at the start of the document"
  | .badComment => "a comment must not hold two hyphens in a row or end in one"
  | .sectionEndInText => "the end mark of a character section stands in text"
  | .badReference => "malformed reference"
  | .unknownEntity name => "unknown entity '" ++ name ++ "'"
  | .referencesTooDeep => "entity references are nested too deeply"
  | .tooManyReferences => "too many entity references"
  | .markupInAttribute => "'<' stands in an attribute value"
  | .duplicateAttribute name => "duplicate attribute '" ++ name ++ "'"
  | .undeclaredPrefix p => "undeclared namespace prefix '" ++ p ++ "'"
  | .reservedSpace => "a reserved namespace is bound wrongly"
  | .duplicateSpace p => "namespace prefix '" ++ p ++ "' is declared twice"
  | .unexpectedClose name => "unexpected end tag '" ++ name ++ "'"
  | .unclosed name => "element '" ++ name ++ "' is not closed"
  | .contentOutsideRoot => "there is content outside the root element"
  | .noRoot => "the document has no root element"

end CollectionProfile.Markup
