import CollectionProfile.Markup.Name
import CollectionProfile.Markup.Scan

/-!
# Tokens of markup

The content of a document as a run of tags, texts, character sections, comments and processing
instructions. References are left as they are written. `Token.scan` takes one token off a text.
-/

namespace CollectionProfile.Markup

/-- An attribute as it is written, its references not yet read. -/
structure RawAttribute where
  name : QualifiedName
  value : List Char
deriving DecidableEq, Repr, Inhabited

/-- How a tag that is no end tag ends. -/
inductive TagKind
  /-- The tag opens an element that an end tag closes. -/
  | opening
  /-- The tag is a whole element without content. -/
  | empty
  /-- The text ends within the tag, after its name or after one of its attributes. -/
  | broken
deriving DecidableEq, Repr, Inhabited

/-- A piece of content. -/
inductive Token
  | tag (kind : TagKind) (name : QualifiedName) (attributes : List RawAttribute)
  | endTag (name : QualifiedName)
  /-- A text up to the next markup. -/
  | text (raw : List Char)
  /-- A character section, whose contents stand for themselves. -/
  | literal (content : List Char)
  | comment (content : List Char)
  | instruction (target content : List Char)
deriving DecidableEq, Repr, Inhabited

/-- The attribute at the start of a text, and the rest. -/
def RawAttribute.scan (text : List Char) : Except Fault (RawAttribute × List Char) := do
  let (name, rest) ← QualifiedName.scan text
  let rest ← expect "=" (skipSpace rest)
  let (value, rest) ← scanQuoted (skipSpace rest)
  ensure ('<' ∉ value) .markupInAttribute
  ensureLegal value
  return (⟨name, value⟩, rest)

theorem RawAttribute.length_lt_of_scan {text rest : List Char} {found : RawAttribute}
    (h : scan text = .ok (found, rest)) : rest.length < text.length := by
  simp only [scan, bind_eq_ok_iff, Prod.exists] at h
  obtain ⟨name, r₁, h₁, r₂, h₂, value, r₃, h₃, _, _, _, _, h₄⟩ := h
  simp only [pure, Except.pure, Except.ok.injEq, Prod.mk.injEq] at h₄
  obtain ⟨_, rfl⟩ := h₄
  have := QualifiedName.length_lt_of_scan h₁
  have := length_lt_of_expect (by simp) h₂
  have := length_lt_of_scanQuoted h₃
  have := length_skipSpace_le r₁
  have := length_skipSpace_le r₂
  omega

/-- What follows the name in a tag, and the text after the tag. -/
structure TagEnd where
  kind : TagKind
  attributes : List RawAttribute
  rest : List Char

/-- The attributes and the end of a tag whose name has been read. Every attribute has a blank before
it. A text may break off right after the name or after an attribute, but not after a blank. -/
def TagEnd.scan (text : List Char) : Except Fault TagEnd :=
  if text.isEmpty then .ok ⟨.broken, [], []⟩
  else match skipSpace text with
    | [] => .error .unexpectedEnd
    | '>' :: rest => .ok ⟨.opening, [], rest⟩
    | '/' :: rest => do return ⟨.empty, [], ← expect ">" rest⟩
    | _ =>
      if text.head?.any isSpace then
        match h : RawAttribute.scan (skipSpace text) with
        | .error fault => .error fault
        | .ok (first, rest) => do
          have := RawAttribute.length_lt_of_scan h
          have := length_skipSpace_le text
          let tail ← TagEnd.scan rest
          return { tail with attributes := first :: tail.attributes }
      else .error (.expected "a blank")
termination_by text.length

theorem TagEnd.length_le_of_scan {text : List Char} {tag : TagEnd} (h : scan text = .ok tag) :
    tag.rest.length ≤ text.length := by
  fun_induction scan text generalizing tag with
  | case1 => cases h; simp
  | case2 => simp at h
  | case3 text _ rest hs =>
    cases h
    have := length_skipSpace_le text
    simp only [hs, List.length_cons] at this
    exact Nat.le_of_succ_le this
  | case4 text _ rest hs =>
    simp only [bind_eq_ok_iff] at h
    obtain ⟨r, hr, h⟩ := h
    cases h
    have := length_lt_of_expect (by simp) hr
    have := length_skipSpace_le text
    simp only [hs, List.length_cons] at this
    simp only
    omega
  | case5 => simp at h
  | case6 text _ _ _ _ _ hfirst hle _ _ _ ih =>
    simp only [bind_eq_ok_iff] at h
    obtain ⟨tail, ht, h⟩ := h
    cases h
    have := ih ht
    simp only
    omega
  | case7 => simp at h

namespace Token

/-- The tag whose `<` has been read. -/
def scanTag (text : List Char) : Except Fault (Token × List Char) := do
  let (name, rest) ← QualifiedName.scan text
  let tagEnd ← TagEnd.scan rest
  return (.tag tagEnd.kind name tagEnd.attributes, tagEnd.rest)

/-- The end tag whose `</` has been read. -/
def scanEnd (text : List Char) : Except Fault (Token × List Char) := do
  let (name, rest) ← QualifiedName.scan text
  return (.endTag name, ← expect ">" (skipSpace rest))

/-- The comment whose `<!--` has been read. -/
def scanComment (text : List Char) : Except Fault (Token × List Char) := do
  let (content, rest) ← expectLater "-->" text
  ensureLegal content
  -- The content must not run together with the closing mark either.
  ensure ((Text.cut? "--".toList content).isNone && content.getLast? != some '-') .badComment
  return (.comment content, rest)

/-- The processing instruction whose `<?` has been read. -/
def scanInstruction (text : List Char) : Except Fault (Token × List Char) := do
  ensure (Text.after? "xml ".toList text).isNone .misplacedDeclaration
  let (target, rest) ← scanName text
  let (content, rest) ← expectLater "?>" (skipSpace rest)
  ensureLegal content
  return (.instruction target content, rest)

/-- The character section whose opening mark has been read. -/
def scanLiteral (text : List Char) : Except Fault (Token × List Char) := do
  let (content, rest) ← expectLater "]]>" text
  ensureLegal content
  return (.literal content, rest)

/-- The text up to the next markup. -/
def scanText (text : List Char) : Except Fault (Token × List Char) := do
  let raw := text.takeWhile (· != '<')
  ensureLegal raw
  ensure (Text.cut? "]]>".toList raw).isNone .sectionEndInText
  return (.text raw, text.dropWhile (· != '<'))

/-- The token at the start of a text, and the rest. -/
def scan (text : List Char) : Except Fault (Token × List Char) :=
  -- Longer marks come first, since shorter ones begin them.
  if let some rest := Text.after? "<!--".toList text then scanComment rest
  else if let some rest := Text.after? "<![CDATA[".toList text then scanLiteral rest
  else if (Text.after? "<!".toList text).isSome then .error .unknownMarkup
  else if let some rest := Text.after? "<?".toList text then scanInstruction rest
  else if let some rest := Text.after? "</".toList text then scanEnd rest
  else if let some rest := Text.after? "<".toList text then scanTag rest
  else scanText text

/-! ### A scanned token shortens the text -/

theorem length_lt_of_scanTag {text rest : List Char} {token : Token}
    (h : scanTag text = .ok (token, rest)) : rest.length < text.length := by
  simp only [scanTag, bind_eq_ok_iff, Prod.exists] at h
  obtain ⟨name, r, hn, tagEnd, ht, h⟩ := h
  cases h
  have := QualifiedName.length_lt_of_scan hn
  have := TagEnd.length_le_of_scan ht
  omega

theorem length_lt_of_scanEnd {text rest : List Char} {token : Token}
    (h : scanEnd text = .ok (token, rest)) : rest.length < text.length := by
  simp only [scanEnd, bind_eq_ok_iff, Prod.exists] at h
  obtain ⟨name, r, hn, r', hr, h⟩ := h
  cases h
  have := QualifiedName.length_lt_of_scan hn
  have := length_lt_of_expect (by simp) hr
  have := length_skipSpace_le r
  omega

theorem length_lt_of_scanComment {text rest : List Char} {token : Token}
    (h : scanComment text = .ok (token, rest)) : rest.length < text.length := by
  simp only [scanComment, bind_eq_ok_iff, Prod.exists] at h
  obtain ⟨content, r, hc, _, _, _, _, h⟩ := h
  cases h
  exact length_lt_of_expectLater (by simp) hc

theorem length_lt_of_scanInstruction {text rest : List Char} {token : Token}
    (h : scanInstruction text = .ok (token, rest)) : rest.length < text.length := by
  simp only [scanInstruction, bind_eq_ok_iff, Prod.exists] at h
  obtain ⟨_, _, target, r, ht, content, r', hc, _, _, h⟩ := h
  cases h
  have := length_lt_of_scanName ht
  have := length_lt_of_expectLater (by simp) hc
  have := length_skipSpace_le r
  omega

theorem length_lt_of_scanLiteral {text rest : List Char} {token : Token}
    (h : scanLiteral text = .ok (token, rest)) : rest.length < text.length := by
  simp only [scanLiteral, bind_eq_ok_iff, Prod.exists] at h
  obtain ⟨content, r, hc, _, _, h⟩ := h
  cases h
  exact length_lt_of_expectLater (by simp) hc

theorem length_lt_of_scan {text rest : List Char} {token : Token} (hne : text ≠ [])
    (h : scan text = .ok (token, rest)) : rest.length < text.length := by
  unfold scan at h
  split at h
  next r hr =>
    have := length_lt_of_scanComment h
    have := Text.length_of_after? hr
    omega
  split at h
  next r hr =>
    have := length_lt_of_scanLiteral h
    have := Text.length_of_after? hr
    omega
  split at h
  next => simp at h
  split at h
  next r hr =>
    have := length_lt_of_scanInstruction h
    have := Text.length_of_after? hr
    omega
  split at h
  next r hr =>
    have := length_lt_of_scanEnd h
    have := Text.length_of_after? hr
    omega
  split at h
  next r hr =>
    have := length_lt_of_scanTag h
    have := Text.length_of_after? hr
    omega
  next hlt =>
    simp only [scanText, bind_eq_ok_iff] at h
    obtain ⟨_, _, _, _, h⟩ := h
    cases h
    cases text with
    | nil => exact absurd rfl hne
    | cons c tail =>
      have hc : (c != '<') = true := by
        simp only [bne_iff_ne, ne_eq]
        rintro rfl
        simp [Text.after?] at hlt
      simp only [List.dropWhile_cons, hc, if_true, List.length_cons]
      exact Nat.lt_succ_of_le (List.dropWhile_suffix _).length_le

end Token

end CollectionProfile.Markup
