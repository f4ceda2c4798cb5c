import CollectionProfile.Markup.Token

/-!
# The prolog of a document

What may stand before the root element: a byte-order mark, the declaration, comments and processing
instructions, and a document type whose internal subset may declare entities.
-/

namespace CollectionProfile.Markup.Prolog

/-! ### The declaration -/

/-- A text whose leading blanks are skipped; there must be one unless the declaration ends here. -/
def skipDeclarationSpace (text : List Char) : Except Fault (List Char) :=
  if text.isEmpty || (Text.after? "?>".toList text).isSome then .ok text else expectSpace text

/-- The text after an attribute whose written form begins with the given letters, or nothing if no
such attribute comes next. -/
def declarationAttribute? (letters : String) (text : List Char) :
    Option (Except Fault (List Char)) :=
  if (Text.after? letters.toList text).isSome then
    some do
      let (_, rest) ← RawAttribute.scan text
      return rest
  else none

/-- The text after the declaration, if there is one. -/
def skipDeclaration (text : List Char) : Except Fault (List Char) :=
  match Text.after? "<?xml ".toList text with
  | none => .ok text
  | some rest => do
    let rest := skipSpace rest
    -- The version is required, the other two may follow in this order.
    ensure (Text.after? "version".toList rest).isSome (.expected "'version'")
    let (_, rest) ← RawAttribute.scan rest
    let rest ← skipDeclarationSpace rest
    let rest ← match declarationAttribute? "encoding" rest with
      | some result => skipDeclarationSpace (← result)
      | none => .ok rest
    let rest ← (declarationAttribute? "standalone" rest).getD (.ok rest)
    expect "?>" (skipSpace rest)

/-! ### Comments and processing instructions -/

/-- The text after blanks, comments and processing instructions. -/
def skipMisc (text : List Char) : Except Fault (List Char) :=
  let rest := skipSpace text
  if hmark : (Text.after? "<!--".toList rest).isSome || (Text.after? "<?".toList rest).isSome then
    match h : Token.scan rest with
    | .error fault => .error fault
    | .ok (_, next) =>
      have : next.length < text.length := by
        have hne : rest ≠ [] := by
          rintro hnil
          simp [hnil, Text.after?] at hmark
        exact Nat.lt_of_lt_of_le (Token.length_lt_of_scan hne h) (length_skipSpace_le text)
      skipMisc next
  else .ok rest
termination_by text.length

/-! ### The document type -/

/-- The text after an external identifier, or nothing if none begins here. -/
def externalId? (text : List Char) : Option (Except Fault (List Char)) :=
  if let some rest := Text.after? "SYSTEM".toList text then
    some do
      let (_, rest) ← scanQuoted (← expectSpace rest)
      return rest
  else if let some rest := Text.after? "PUBLIC".toList text then
    some do
      let (_, rest) ← scanQuoted (← expectSpace rest)
      let (_, rest) ← scanQuoted (← expectSpace rest)
      return rest
  else none

/-- The text after the notation of an external entity, if there is one. -/
def skipNotation (text : List Char) : Except Fault (List Char) :=
  match Text.after? "NDATA".toList (skipSpace text) with
  | none => .ok text
  | some rest => do
    let (_, rest) ← scanName (← expectSpace rest)
    return rest

/-- What an entity stands for, and the rest. An external entity stands for nothing that can be
used. -/
def entityValue (isParameter : Bool) (text : List Char) :
    Except Fault (Option (List Char) × List Char) :=
  match externalId? text with
  | some result => do
    let rest ← result
    return (none, ← if isParameter then .ok rest else skipNotation rest)
  | none => do
    let (value, rest) ← scanQuoted text
    return (some value, rest)

/-- The entity whose `<!ENTITY` has been read, if it has a literal value, and the rest. -/
def scanEntity (text : List Char) : Except Fault (Option (String × List Char) × List Char) := do
  let rest ← expectSpace text
  let parameter := Text.after? ['%'] rest
  let rest ← match parameter with
    | some rest => expectSpace rest
    | none => .ok rest
  let (name, rest) ← scanName rest
  let (value, rest) ← entityValue parameter.isSome (← expectSpace rest)
  let rest ← expect ">" (skipSpace rest)
  return (value.map fun value => (String.ofList name, value), rest)

/-- One declaration of an internal subset: the entity it declares, if any, and the rest. -/
def scanSubsetItem (text : List Char) : Except Fault (Option (String × List Char) × List Char) :=
  if let some rest := Text.after? "<!ENTITY".toList text then scanEntity rest
  else if (Text.after? "<!--".toList text).isSome || (Text.after? "<?".toList text).isSome then do
    let (_, rest) ← Token.scan text
    return (none, rest)
  else if ["<!ELEMENT", "<!ATTLIST", "<!NOTATION"].any fun mark =>
      (Text.after? mark.toList text).isSome then do
    let (_, rest) ← expectLater ">" text
    return (none, rest)
  else .error .unknownMarkup

/-- The entities that an internal subset declares, in order, and the text after its bracket. Every
declaration takes up some text. -/
def scanSubset (text : List Char) : Except Fault (List (String × List Char) × List Char) :=
  match Text.after? [']'] (skipSpace text) with
  | some rest => .ok ([], rest)
  | none =>
    match scanSubsetItem (skipSpace text) with
    | .error fault => .error fault
    | .ok (found, rest) =>
      if rest.length < text.length then do
        let (more, rest) ← scanSubset rest
        return (found.toList ++ more, rest)
      else .error .unknownMarkup
termination_by text.length

/-- The entities that the document type declares, if there is one, and the text after it. -/
def scanDocumentType (text : List Char) :
    Except Fault (List (String × List Char) × List Char) :=
  match Text.after? "<!DOCTYPE".toList text with
  | none => .ok ([], text)
  | some rest => do
    let (_, rest) ← scanName (← expectSpace rest)
    let rest := skipSpace rest
    -- What an external identifier leads to is never read.
    let rest ← (externalId? rest).getD (.ok rest)
    let rest := skipSpace rest
    let (entities, rest) ← match Text.after? ['['] rest with
      | some rest => scanSubset rest
      | none => .ok ([], rest)
    return (entities, ← expect ">" (skipSpace rest))

/-- The entities that a prolog declares, and the text from the root element on. -/
def scan (text : List Char) : Except Fault (List (String × List Char) × List Char) := do
  let rest ← skipDeclaration ((Text.after? ['\uFEFF'] text).getD text)
  let (entities, rest) ← scanDocumentType (← skipMisc rest)
  return (entities, ← skipMisc rest)

end CollectionProfile.Markup.Prolog
