import CollectionProfile.Proofs.Markup.Escape

/-!
# Scanning written tags

A tag that is written with plain names and legal values is scanned as the token it stands for, and
what follows it is left over (`scan_tag`, `scan_endTag`); so is a written text up to the next tag
(`scan_text`).
-/

namespace CollectionProfile.Markup

/-- A name without a colon. -/
structure IsName (name : String) : Prop where
  start : name.toList.head?.any isNameStart = true
  chars : ∀ c ∈ name.toList, isNameChar c = true ∧ c ≠ ':'

instance (name : String) : Decidable (IsName name) :=
  decidable_of_iff (name.toList.head?.any isNameStart = true
      ∧ name.toList.all (fun c => isNameChar c && c != ':') = true)
    ⟨fun h => ⟨h.1, by simpa using h.2⟩, fun h => ⟨h.start, by simpa using h.chars⟩⟩

/-- The string consists of characters that a document may hold. -/
def IsLegalString (string : String) : Prop := ∀ c ∈ string.toList, isLegal c = true

theorem cut?_singleton_append {mark : Char} {before : List Char} (h : mark ∉ before)
    (after : List Char) : Text.cut? [mark] (before ++ mark :: after) = some (before, after) := by
  induction before with
  | nil => simp [Text.cut?]
  | cons c rest ih =>
    rw [List.mem_cons, not_or] at h
    rw [List.cons_append, Text.cut?, if_neg (by simpa using h.1), ih h.2]
    rfl

/-- A mark does not occur in a text that lacks one of its characters. -/
theorem cut?_eq_none_of_not_mem {mark text : List Char} {c : Char} (hc : c ∈ mark) (h : c ∉ text) :
    Text.cut? mark text = none := by
  cases hcut : Text.cut? mark text with
  | none => rfl
  | some parts =>
    have htext := Text.eq_of_cut? hcut
    exact absurd (htext ▸ by simp [hc]) h

theorem skipSpace_cons {c : Char} (h : isSpace c = false) (rest : List Char) :
    skipSpace (c :: rest) = c :: rest := by
  rw [skipSpace, List.dropWhile_cons_of_neg (by simp [h])]

theorem isSpace_false_of_isNameStart {c : Char} (h : isNameStart c = true) : isSpace c = false := by
  have hne : ∀ mark, isNameStart mark = false → c ≠ mark := fun _ => ne_of_kind h
  simp [isSpace, hne ' ' (by decide), hne '\t' (by decide), hne '\n' (by decide),
    hne '\r' (by decide)]

/-! ### Names -/

namespace IsName

variable {name : String}

theorem exists_cons (h : IsName name) :
    ∃ first rest, name.toList = first :: rest ∧ isNameStart first = true := by
  have hstart := h.start
  cases hlist : name.toList with
  | nil => simp [hlist] at hstart
  | cons first rest => exact ⟨first, rest, rfl, by simpa [hlist] using hstart⟩

theorem ofRun (h : IsName name) : QualifiedName.ofRun name.toList = .ok ⟨"", name⟩ := by
  have hcolon : ':' ∉ name.toList := fun hmem => (h.chars ':' hmem).2 rfl
  have hparts : QualifiedName.ofParts [] name.toList = .ok ⟨"", name⟩ := by
    rw [QualifiedName.ofParts, h.start]
    simp
  rw [QualifiedName.ofRun, cut?_eq_none_of_not_mem List.mem_cons_self hcolon]
  exact hparts

theorem scan (h : IsName name) {stop : Char} (hstop : isNameChar stop = false)
    (rest : List Char) :
    QualifiedName.scan (name.toList ++ stop :: rest) = .ok (⟨"", name⟩, stop :: rest) := by
  have hchars : ∀ c ∈ name.toList, isNameChar c = true := fun c hc => (h.chars c hc).1
  rw [QualifiedName.scan, List.takeWhile_append_of_pos hchars, List.dropWhile_append_of_pos hchars,
    List.takeWhile_cons_of_neg (by simp [hstop]), List.dropWhile_cons_of_neg (by simp [hstop]),
    List.append_nil, h.ofRun]

end IsName

/-! ### Attributes -/

namespace Block

/-- An attribute as it is scanned. -/
def rawAttribute : String × String → RawAttribute
  | (key, value) => ⟨⟨"", key⟩, value.toList.flatMap escapeInAttribute⟩

theorem not_mem_escaped {escape : Char → List Char} {escaped : Char → Bool} {mark : Char}
    (hescape : ∀ c, Writes c (escaped c) (escape c)) (hmark : escaped mark = true)
    (hname : isNameChar mark = false) (hamp : mark ≠ '&') (hsemicolon : mark ≠ ';')
    (text : List Char) : mark ∉ text.flatMap escape := by
  intro hmem
  obtain ⟨c, -, hc⟩ := List.mem_flatMap.1 hmem
  rcases (hescape c).mem hc with ⟨hplain, rfl⟩ | h | h | h
  · rw [hmark] at hplain
    exact absurd hplain (by decide)
  · exact hamp h
  · exact hsemicolon h
  · rw [hname] at h
    exact absurd h (by decide)

theorem ensureLegal_escaped {escape : Char → List Char} {escaped : Char → Bool}
    (hescape : ∀ c, Writes c (escaped c) (escape c)) {text : List Char}
    (h : ∀ c ∈ text, isLegal c = true) : ensureLegal (text.flatMap escape) = .ok () := by
  rw [ensureLegal_eq_ok_iff]
  intro d hd
  obtain ⟨c, hc, hd⟩ := List.mem_flatMap.1 hd
  exact (hescape c).isLegal_iff.2 (h c hc) d hd

theorem scan_renderAttribute {key value : String} (hkey : IsName key) (hvalue : IsLegalString value)
    (rest : List Char) :
    RawAttribute.scan (key.toList ++ ('=' :: '"' :: value.toList.flatMap escapeInAttribute
        ++ '"' :: rest))
      = .ok (rawAttribute (key, value), rest) := by
  have hquote : '"' ∉ value.toList.flatMap escapeInAttribute :=
    not_mem_escaped writes_escapeInAttribute (by decide) (by decide) (by decide) (by decide) _
  have hless : '<' ∉ value.toList.flatMap escapeInAttribute :=
    not_mem_escaped writes_escapeInAttribute (by decide) (by decide) (by decide) (by decide) _
  have hquoted : scanQuoted ('"' :: (value.toList.flatMap escapeInAttribute ++ '"' :: rest))
      = .ok (value.toList.flatMap escapeInAttribute, rest) := by
    simp only [scanQuoted, expectLater]
    rw [show "\"".toList = ['"'] from rfl, cut?_singleton_append hquote]
  have hequals : expect "=" ('=' :: '"' :: (value.toList.flatMap escapeInAttribute ++ '"' :: rest))
      = .ok ('"' :: (value.toList.flatMap escapeInAttribute ++ '"' :: rest)) := rfl
  have hensure : ensure ('<' ∉ value.toList.flatMap escapeInAttribute) .markupInAttribute
      = .ok () := by simp [ensure, hless]
  rw [RawAttribute.scan, List.cons_append, hkey.scan (by decide), List.cons_append]
  simp only [bind, Except.bind, skipSpace_cons (show isSpace '=' = false by decide), hequals,
    skipSpace_cons (show isSpace '"' = false by decide), hquoted, hensure,
    ensureLegal_escaped writes_escapeInAttribute hvalue]
  rfl

/-- One more attribute in front of what has been scanned of a tag. -/
theorem scan_space_cons {c : Char} {body rest : List Char} {found : RawAttribute} {tag : TagEnd}
    (hc : isNameStart c = true) (hfound : RawAttribute.scan (c :: body) = .ok (found, rest))
    (h : TagEnd.scan rest = .ok tag) :
    TagEnd.scan (' ' :: c :: body) = .ok { tag with attributes := found :: tag.attributes } := by
  have hskip : skipSpace (' ' :: c :: body) = c :: body := by
    rw [skipSpace, List.dropWhile_cons_of_pos (by decide), ← skipSpace,
      skipSpace_cons (isSpace_false_of_isNameStart hc)]
  have hgreater : c ≠ '>' := ne_of_kind hc (by decide)
  have hslash : c ≠ '/' := ne_of_kind hc (by decide)
  rw [TagEnd.scan, if_neg (by simp)]
  split
  case _ hnil =>
    rw [hskip] at hnil
    exact absurd hnil (List.cons_ne_nil _ _)
  case _ hopening =>
    rw [hskip] at hopening
    exact absurd (List.cons.inj hopening).1 hgreater
  case _ hempty =>
    rw [hskip] at hempty
    exact absurd (List.cons.inj hempty).1 hslash
  case _ =>
    have hspace : (' ' :: c :: body).head?.any isSpace = true := rfl
    rw [if_pos hspace]
    split
    case _ fault hfault =>
      rw [hskip, hfound] at hfault
      exact absurd hfault (by simp)
    case _ first after hfirst =>
      rw [hskip, hfound, Except.ok.injEq, Prod.mk.injEq] at hfirst
      obtain ⟨rfl, rfl⟩ := hfirst
      rw [h]
      rfl

theorem scan_cons_attribute {key value : String} (hkey : IsName key)
    (hvalue : IsLegalString value) {text : List Char} {tag : TagEnd}
    (h : TagEnd.scan text = .ok tag) :
    TagEnd.scan (renderAttribute (key, value) ++ text)
      = .ok { tag with attributes := rawAttribute (key, value) :: tag.attributes } := by
  have hscan := scan_renderAttribute hkey hvalue text
  obtain ⟨first, tail, hlist, hfirst⟩ := hkey.exists_cons
  have htext : renderAttribute (key, value) ++ text = ' ' :: (key.toList
      ++ ('=' :: '"' :: value.toList.flatMap escapeInAttribute ++ '"' :: text)) := by
    simp [renderAttribute]
  rw [hlist, List.cons_append] at hscan
  rw [htext, hlist, List.cons_append]
  exact scan_space_cons hfirst hscan h

/-- Attributes in front of the end of a tag are scanned one after the other. -/
theorem scan_attributes {attributes : List (String × String)}
    (hkeys : ∀ pair ∈ attributes, IsName pair.1)
    (hvalues : ∀ pair ∈ attributes, IsLegalString pair.2) {text rest : List Char}
    {kind : TagKind} (hend : TagEnd.scan text = .ok ⟨kind, [], rest⟩) :
    TagEnd.scan (attributes.flatMap renderAttribute ++ text)
      = .ok ⟨kind, attributes.map rawAttribute, rest⟩ := by
  induction attributes with
  | nil => exact hend
  | cons pair others ih =>
    rw [List.forall_mem_cons] at hkeys hvalues
    rw [List.flatMap_cons, List.append_assoc,
      scan_cons_attribute hkeys.1 hvalues.1 (ih hkeys.2 hvalues.2)]
    rfl

/-! ### Tags -/

theorem scan_opening (rest : List Char) : TagEnd.scan ('>' :: rest) = .ok ⟨.opening, [], rest⟩ := by
  rw [TagEnd.scan]
  rfl

theorem scan_empty (rest : List Char) :
    TagEnd.scan ('/' :: '>' :: rest) = .ok ⟨.empty, [], rest⟩ := by
  rw [TagEnd.scan]
  rfl

/-- A tag is told from other markup by the first character of its name. -/
theorem scan_less_of_isNameStart {c : Char} (hc : isNameStart c = true) (rest : List Char) :
    Token.scan ('<' :: c :: rest) = Token.scanTag (c :: rest) := by
  have hbang : c ≠ '!' := ne_of_kind hc (by decide)
  have hquery : c ≠ '?' := ne_of_kind hc (by decide)
  have hslash : c ≠ '/' := ne_of_kind hc (by decide)
  simp [Token.scan, Text.after?, hbang.symm, hquery.symm, hslash.symm]

theorem scan_tag {name : String} {attributes : List (String × String)} (hname : IsName name)
    (hkeys : ∀ pair ∈ attributes, IsName pair.1)
    (hvalues : ∀ pair ∈ attributes, IsLegalString pair.2) {stop : Char} {text rest : List Char}
    (hstop : isNameChar stop = false) {kind : TagKind}
    (hend : TagEnd.scan (stop :: text) = .ok ⟨kind, [], rest⟩) :
    Token.scan ('<' :: name.toList ++ attributes.flatMap renderAttribute ++ stop :: text)
      = .ok (.tag kind ⟨"", name⟩ (attributes.map rawAttribute), rest) := by
  have hattributes := scan_attributes hkeys hvalues hend
  obtain ⟨first, tail, hlist, hfirst⟩ := hname.exists_cons
  have hscan : QualifiedName.scan (name.toList ++ (attributes.flatMap renderAttribute
        ++ stop :: text))
      = .ok (⟨"", name⟩, attributes.flatMap renderAttribute ++ stop :: text) := by
    cases attributes with
    | nil => exact hname.scan hstop text
    | cons pair others => exact hname.scan (show isNameChar ' ' = false by decide) _
  have htag : Token.scan ('<' :: name.toList ++ attributes.flatMap renderAttribute ++ stop :: text)
      = Token.scanTag (name.toList ++ (attributes.flatMap renderAttribute ++ stop :: text)) := by
    rw [hlist]
    simpa using scan_less_of_isNameStart hfirst _
  rw [htag, Token.scanTag, hscan]
  simp only [bind, Except.bind, hattributes]
  rfl

theorem scan_endTag {name : String} (hname : IsName name) (rest : List Char) :
    Token.scan ('<' :: '/' :: (name.toList ++ '>' :: rest)) = .ok (.endTag ⟨"", name⟩, rest) := by
  have hend : Token.scan ('<' :: '/' :: (name.toList ++ '>' :: rest))
      = Token.scanEnd (name.toList ++ '>' :: rest) := by
    simp [Token.scan, Text.after?]
  rw [hend, Token.scanEnd, hname.scan (by decide)]
  simp only [bind, Except.bind, skipSpace_cons (show isSpace '>' = false by decide)]
  rfl

/-! ### Text -/

theorem scan_of_ne_less {c : Char} (hc : c ≠ '<') (rest : List Char) :
    Token.scan (c :: rest) = Token.scanText (c :: rest) := by
  simp [Token.scan, Text.after?, hc.symm]

/-- A text that is written before a tag is scanned up to the tag. -/
theorem scan_text {text : List Char} (hne : text ≠ []) (hlegal : ∀ c ∈ text, isLegal c = true)
    (rest : List Char) :
    Token.scan (text.flatMap escapeInText ++ '<' :: rest)
      = .ok (.text (text.flatMap escapeInText), '<' :: rest) := by
  have hless : '<' ∉ text.flatMap escapeInText :=
    not_mem_escaped writes_escapeInText (by decide) (by decide) (by decide) (by decide) _
  have hgreater : '>' ∉ text.flatMap escapeInText :=
    not_mem_escaped writes_escapeInText (by decide) (by decide) (by decide) (by decide) _
  have hscan : Token.scan (text.flatMap escapeInText ++ '<' :: rest)
      = Token.scanText (text.flatMap escapeInText ++ '<' :: rest) := by
    have hwritten : text.flatMap escapeInText ≠ [] := by
      obtain ⟨c, others, rfl⟩ := List.exists_cons_of_ne_nil hne
      rw [List.flatMap_cons]
      exact List.append_ne_nil_of_left_ne_nil (writes_escapeInText c).ne_nil _
    obtain ⟨d, others, hlist⟩ := List.exists_cons_of_ne_nil hwritten
    have hd : d ≠ '<' := by
      rintro rfl
      exact hless (hlist ▸ List.mem_cons_self)
    rw [hlist, List.cons_append, scan_of_ne_less hd]
  have hall : ∀ c ∈ text.flatMap escapeInText, (c != '<') = true := by
    intro c hc
    simp only [bne_iff_ne]
    rintro rfl
    exact hless hc
  rw [hscan, Token.scanText, List.takeWhile_append_of_pos hall, List.dropWhile_append_of_pos hall,
    List.takeWhile_cons_of_neg (by simp), List.dropWhile_cons_of_neg (by simp), List.append_nil,
    ensureLegal_escaped writes_escapeInText hlegal,
    cut?_eq_none_of_not_mem (show '>' ∈ "]]>".toList by decide) hgreater]
  rfl

end Block

end CollectionProfile.Markup
