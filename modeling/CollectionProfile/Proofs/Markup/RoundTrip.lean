import CollectionProfile.Proofs.Markup.Reading

/-!
# Reading written blocks back

`goesOver_of_all` carries the reader over a block: a step for the tag, then the text and the run over
the inner blocks, then the end tag. A whole document is read by `ofText_document`, and it is accepted
exactly if the strings of its blocks hold legal characters only (`exists_ofText_document_iff`).
-/

namespace CollectionProfile.Markup

/-! ### Reading blocks -/

namespace Block

/-- The line break before a tag, unless it is omitted. -/
def breakBefore (level : Nat) (omitted : Bool) : List Char :=
  if omitted then [] else lineBreak level

/-- What is written of a block after its opening tag. -/
def interior (level : Nat) (block : Block) : List Char :=
  (block.text.getD "").toList.flatMap escapeInText
    ++ renderInner (level + 1) block.text.isSome block.children
    ++ breakBefore level block.children.isEmpty
    ++ ('<' :: '/' :: block.name.toList ++ ['>'])

theorem render_eq (level : Nat) (block : Block) :
    render level block = '<' :: block.name.toList ++ block.attributes.flatMap renderAttribute
      ++ if block.text = none ∧ block.children = [] then ['/', '>']
        else '>' :: interior level block := by
  obtain ⟨name, attributes, text, children⟩ := block
  cases text <;> cases children <;> simp [render, interior, breakBefore]

theorem renderInner_cons (level : Nat) (afterText : Bool) (child : Block) (rest : List Block) :
    renderInner level afterText (child :: rest)
      = breakBefore level afterText ++ render level child ++ renderInner level false rest := by
  rw [renderInner, breakBefore]

theorem node_eq (level : Nat) (block : Block) :
    node level block = .element ⟨none, block.name⟩ (readAttributes block.attributes)
      (textNodes (block.text.getD "").toList
        ++ innerNodes (level + 1) block.text.isSome block.children
        ++ breakNodes level block.children.isEmpty) := by
  cases block
  rw [node]

theorem node_of_empty {block : Block} (h : block.text = none ∧ block.children = []) (level : Nat) :
    node level block = .element ⟨none, block.name⟩ (readAttributes block.attributes) [] := by
  rw [node_eq, h.1, h.2]
  rfl

theorem forall_mem_text {text : Option String} {p : Char → Prop}
    (h : ∀ written ∈ text, ∀ c ∈ written.toList, p c) : ∀ c ∈ (text.getD "").toList, p c := by
  cases text with
  | none => simp
  | some written => exact h written rfl

theorem exists_render_eq_cons (level : Nat) (block : Block) :
    ∃ tail, render level block = '<' :: tail := by
  rw [render_eq, List.append_assoc]
  exact ⟨_, rfl⟩

/-- Right after a text there is a tag: that of an inner block, or else the end tag. -/
theorem exists_renderInner_eq_cons (level : Nat) (children : List Block) (tail : List Char) :
    ∃ rest, renderInner (level + 1) true children
      ++ (breakBefore level children.isEmpty ++ '<' :: tail) = '<' :: rest := by
  cases children with
  | nil => exact ⟨tail, rfl⟩
  | cons child others =>
    obtain ⟨rest, hchild⟩ := exists_render_eq_cons (level + 1) child
    rw [renderInner_cons, hchild]
    exact ⟨_, rfl⟩

theorem mem_lineBreak {level : Nat} {c : Char} (h : c ∈ lineBreak level) : c = '\n' ∨ c = ' ' := by
  rcases List.mem_cons.1 h with rfl | h
  · exact .inl rfl
  · exact .inr (List.eq_of_mem_replicate h)

theorem isSpace_of_mem_lineBreak {level : Nat} {c : Char} (h : c ∈ lineBreak level) :
    isSpace c = true := by
  rcases mem_lineBreak h with rfl | rfl <;> decide

/-- There is nothing to escape in a line break. -/
theorem escape_lineBreak (level : Nat) :
    (lineBreak level).flatMap escapeInText = lineBreak level := by
  have hplain : ∀ c ∈ lineBreak level, escapeInText c = [c] := by
    intro c hc
    rcases mem_lineBreak hc with rfl | rfl <;> decide
  rw [List.flatMap_congr hplain, List.flatMap_singleton']

end Block

section Blocks

variable {reading : Reading} {growth : Growth}

theorem readContent_text (hreading : reading.IsOuter) {text rest : List Char}
    (hlegal : ∀ c ∈ text, isLegal c = true) (hrest : text ≠ [] → ∃ tail, rest = '<' :: tail)
    (inner : Nat) :
    readContent reading inner true growth (text.flatMap Block.escapeInText ++ rest)
      = readContent reading inner true (growth.pushAll (Block.textNodes text)) rest := by
  by_cases hne : text = []
  · subst hne
    rfl
  obtain ⟨tail, rfl⟩ := hrest hne
  rw [readContent_of_scan (by simp) (Block.scan_text hne hlegal tail) (take_text hreading text true)]
  rfl

theorem readContent_breakBefore (hreading : reading.IsOuter) (level : Nat) (omitted : Bool)
    (inner : Nat) (tail : List Char) :
    readContent reading inner true growth (Block.breakBefore level omitted ++ '<' :: tail)
      = readContent reading inner true (growth.pushAll (Block.breakNodes level omitted))
          ('<' :: tail) := by
  cases omitted with
  | true => rfl
  | false =>
    have hlegal : ∀ c ∈ Block.lineBreak level, isLegal c = true := fun _ hc =>
      isLegal_of_isSpace (Block.isSpace_of_mem_lineBreak hc)
    have htext := @readContent_text reading growth hreading (Block.lineBreak level) ('<' :: tail)
      hlegal (fun _ => ⟨tail, rfl⟩) inner
    rwa [Block.escape_lineBreak] at htext

/-- The end tag of a block takes the reader out of its element; it ends the stretch if no more end
tags were to come in it. -/
theorem readContent_endTag (hgrowth : growth.IsClear) {name : String} (hname : IsName name)
    (attributes : List Attribute) (nodes : List Node) (inner : Nat) (rest : List Char) :
    readContent reading inner true ((growth.inside name attributes).pushAll nodes)
        ('<' :: '/' :: (name.toList ++ '>' :: rest))
      = match inner with
        | 0 => pure (growth.push (.element ⟨none, name⟩ attributes nodes), rest)
        | inner + 1 =>
          readContent reading inner true (growth.push (.element ⟨none, name⟩ attributes nodes)) rest
    := by
  rw [readContent_of_scan (by simp) (Block.scan_endTag hname rest)
    (take_endTag hgrowth name attributes nodes)]
  cases inner <;> rfl

/-- The reading goes over the written block and gains the block's node. -/
def Reading.GoesOver (reading : Reading) (block : Block) : Prop :=
  ∀ (level inner : Nat) {growth : Growth}, growth.IsClear → ∀ rest : List Char,
    readContent reading inner true growth (block.render level ++ rest)
      = readContent reading inner true (growth.push (block.node level)) rest

theorem readContent_renderInner (hreading : reading.IsOuter) {children : List Block}
    (hchildren : ∀ child ∈ children, reading.GoesOver child) (level : Nat) (afterText : Bool)
    (inner : Nat) (hgrowth : growth.IsClear) (rest : List Char) :
    readContent reading inner true growth (Block.renderInner level afterText children ++ rest)
      = readContent reading inner true
          (growth.pushAll (Block.innerNodes level afterText children)) rest := by
  induction children generalizing growth afterText with
  | nil => rfl
  | cons child others ih =>
    rw [List.forall_mem_cons] at hchildren
    obtain ⟨tail, htail⟩ := Block.exists_render_eq_cons level child
    have hbreak := @readContent_breakBefore reading growth hreading level afterText inner
      (tail ++ (Block.renderInner level false others ++ rest))
    rw [← List.cons_append, ← htail] at hbreak
    have hcleared := hgrowth.pushAll (Block.breakNodes level afterText)
    rw [Block.renderInner_cons, List.append_assoc, List.append_assoc, hbreak,
      hchildren.1 level inner hcleared, ih hchildren.2 false (hcleared.push _),
      ← Growth.pushAll_cons, ← Growth.pushAll_append]
    rfl

/-- The reader goes on behind an opening tag. -/
theorem readContent_interior (hreading : reading.IsOuter) (hgrowth : growth.IsClear) {block : Block}
    (hname : IsName block.name) (htext : ∀ text ∈ block.text, IsLegalString text) {level : Nat}
    (hchildren : ∀ child ∈ block.children, reading.GoesOver child)
    (inner : Nat) (rest : List Char) :
    readContent reading inner true
        (growth.inside block.name (Block.readAttributes block.attributes))
        (block.interior level ++ rest)
      = match inner with
        | 0 => pure (growth.push (block.node level), rest)
        | inner + 1 => readContent reading inner true (growth.push (block.node level)) rest := by
  set closing : List Char := '/' :: (block.name.toList ++ '>' :: rest) with hclosing
  have hwritten : block.interior level ++ rest
      = (block.text.getD "").toList.flatMap Block.escapeInText
        ++ (Block.renderInner (level + 1) block.text.isSome block.children
          ++ (Block.breakBefore level block.children.isEmpty ++ '<' :: closing)) := by
    simp [Block.interior, hclosing]
  have hlegal : ∀ c ∈ (block.text.getD "").toList, isLegal c = true := Block.forall_mem_text htext
  -- A text is scanned up to the next tag, so there has to be one right after it.
  have hnext : (block.text.getD "").toList ≠ [] → ∃ tail,
      Block.renderInner (level + 1) block.text.isSome block.children
        ++ (Block.breakBefore level block.children.isEmpty ++ '<' :: closing) = '<' :: tail := by
    intro hne
    have hsome : block.text.isSome = true := by
      cases h : block.text with
      | none => simp [h] at hne
      | some text => rfl
    rw [hsome]
    exact Block.exists_renderInner_eq_cons level block.children _
  have hinside := growth.isClear_inside block.name (Block.readAttributes block.attributes)
  rw [hwritten, readContent_text hreading hlegal hnext,
    readContent_renderInner hreading hchildren _ _ _ (hinside.pushAll _),
    readContent_breakBefore hreading, ← Growth.pushAll_append, ← Growth.pushAll_append,
    readContent_endTag hgrowth hname, ← List.append_assoc, ← Block.node_eq]

theorem scan_render {block : Block} (hnames : block.HasNames) (hstrings : block.HasLegalStrings)
    (level : Nat) (rest : List Char) :
    Token.scan (block.render level ++ rest) = .ok (if block.text = none ∧ block.children = []
      then (.tag .empty ⟨"", block.name⟩ (block.attributes.map Block.rawAttribute), rest)
      else (.tag .opening ⟨"", block.name⟩ (block.attributes.map Block.rawAttribute),
        block.interior level ++ rest)) := by
  rw [Block.render_eq, List.append_assoc]
  split
  · exact Block.scan_tag hnames.name hnames.keys hstrings.values (by decide)
      (Block.scan_empty rest)
  · exact Block.scan_tag hnames.name hnames.keys hstrings.values (by decide)
      (Block.scan_opening (block.interior level ++ rest))

/-- A reader goes over every block whose names and strings may be written. -/
theorem goesOver_of_all (hreading : reading.IsOuter) {block : Block}
    (h : block.All fun block => block.HasNames ∧ block.HasLegalStrings) :
    reading.GoesOver block := by
  -- The inner blocks are gone over at any level and with any text behind them.
  induction h with
  | @intro block here _ ih =>
    obtain ⟨hnames, hstrings⟩ := here
    intro level inner growth hgrowth rest
    have hscan := scan_render hnames hstrings level rest
    have hne : block.render level ++ rest ≠ [] := by
      obtain ⟨tail, htail⟩ := Block.exists_render_eq_cons level block
      simp [htail]
    by_cases hempty : block.text = none ∧ block.children = []
    · rw [if_pos hempty] at hscan
      rw [readContent_of_scan hne hscan (take_empty hreading hgrowth hnames true),
        Block.node_of_empty hempty]
      rfl
    · rw [if_neg hempty] at hscan
      rw [readContent_of_scan hne hscan (take_opening hreading hgrowth hnames true)]
      exact readContent_interior hreading hgrowth hnames.name hstrings.text ih (inner + 1) rest

/-- A root element without content is all that is read, any other is read to its end. -/
theorem readRoot_of_scan {text rest : List Char} {kind : TagKind} {name : QualifiedName}
    {attributes : List RawAttribute} {after : Growth}
    (hscan : Token.scan text = .ok (.tag kind name attributes, rest))
    (htake : reading.take false {} (.tag kind name attributes) = pure after) :
    readRoot reading text
      = if kind = .opening then readContent reading 0 true after rest else pure (after, rest) := by
  have hensure : ensure (Token.tag kind name attributes).isTag .noRoot = .ok () := rfl
  rw [readRoot, hscan, Expansion.liftM_ok_bind]
  simp only [hensure]
  rw [Expansion.liftM_ok_bind, htake, pure_bind]
  cases kind <;> rfl

/-- The root element ends with the text of its block. -/
theorem readRoot_render (hreading : reading.IsOuter) {block : Block}
    (h : block.All fun block => block.HasNames ∧ block.HasLegalStrings) :
    readRoot reading (block.render 0) = pure (({} : Growth).push (block.node 0), []) := by
  obtain ⟨⟨hnames, hstrings⟩, hchildren⟩ := h
  have hclear : ({} : Growth).IsClear := ⟨rfl, rfl⟩
  have hscan := scan_render hnames hstrings 0 []
  rw [List.append_nil] at hscan
  by_cases hempty : block.text = none ∧ block.children = []
  · rw [if_pos hempty] at hscan
    rw [readRoot_of_scan hscan (take_empty hreading hclear hnames false), if_neg (by decide),
      Block.node_of_empty hempty]
  · rw [if_neg hempty] at hscan
    rw [readRoot_of_scan hscan (take_opening hreading hclear hnames false), if_pos rfl]
    exact readContent_interior hreading hclear hnames.name hstrings.text
      (fun child hchild => goesOver_of_all hreading (hchildren child hchild)) 0 []

end Blocks

/-! ### Reading documents -/

theorem skipDeclaration_declaration (rest : List Char) :
    Prolog.skipDeclaration (Block.declaration ++ rest) = .ok rest := rfl

theorem skipMisc_of_isNameStart {c : Char} (hc : isNameStart c = true) {space : List Char}
    (hspace : ∀ d ∈ space, isSpace d = true) (rest : List Char) :
    Prolog.skipMisc (space ++ '<' :: c :: rest) = .ok ('<' :: c :: rest) := by
  have hskip : skipSpace (space ++ '<' :: c :: rest) = '<' :: c :: rest := by
    rw [skipSpace, List.dropWhile_append_of_pos hspace, List.dropWhile_cons_of_neg (by decide)]
  have hbang : c ≠ '!' := ne_of_kind hc (by decide)
  have hquery : c ≠ '?' := ne_of_kind hc (by decide)
  have hmark : ¬((Text.after? "<!--".toList ('<' :: c :: rest)).isSome
      || (Text.after? "<?".toList ('<' :: c :: rest)).isSome) = true := by
    simp [Text.after?, hbang.symm, hquery.symm]
  rw [← hskip] at hmark
  rw [Prolog.skipMisc, dif_neg hmark, hskip]

/-- The prolog ends where the root begins, and declares nothing. -/
theorem scan_document {block : Block} (hname : IsName block.name) :
    Prolog.scan block.document = .ok ([], block.render 0) := by
  obtain ⟨c, tail, hlist, hc⟩ := hname.exists_cons
  obtain ⟨rest, hrender⟩ : ∃ rest, block.render 0 = '<' :: c :: rest := by
    rw [Block.render_eq, hlist]
    exact ⟨_, rfl⟩
  have hmark : Text.after? ['\uFEFF'] block.document = none := rfl
  have hbreak : ∀ d ∈ Block.lineBreak 0, isSpace d = true := fun _ => Block.isSpace_of_mem_lineBreak
  have hbang : c ≠ '!' := ne_of_kind hc (by decide)
  have htype : Prolog.scanDocumentType ('<' :: c :: rest) = .ok ([], '<' :: c :: rest) := by
    simp [Prolog.scanDocumentType, Text.after?, hbang.symm]
  have hfirst := skipMisc_of_isNameStart hc hbreak rest
  have hsecond := @skipMisc_of_isNameStart c hc [] (by simp) rest
  rw [List.nil_append] at hsecond
  rw [Prolog.scan, hmark, Option.getD_none, Block.document, List.append_assoc,
    skipDeclaration_declaration, hrender]
  simp only [bind, Except.bind, hfirst, htype, hsecond]
  rfl

theorem ofText_document {block : Block}
    (h : block.All fun block => block.HasNames ∧ block.HasLegalStrings) :
    Document.ofText (String.ofList block.document) = .ok ⟨[block.node 0]⟩ := by
  have hreading := Reading.isOuter_ofEntities [] Expansion.maxDepth
  have hroot : readRoot (Reading.ofEntities [] Expansion.maxDepth false) (block.render 0)
      Expansion.budget = .ok ((({} : Growth).push (block.node 0), []), Expansion.budget) := by
    rw [readRoot_render hreading h]
    rfl
  have hmisc : Prolog.skipMisc [] = .ok [] := by
    rw [Prolog.skipMisc]
    rfl
  obtain ⟨⟨hnames, -⟩, -⟩ := h
  rw [Document.ofText, String.toList_ofList, scan_document hnames.name]
  simp only [bind, Except.bind, hroot, hmisc]
  rw [Block.node_eq]
  rfl

/-! ### Blocks that may be written -/

namespace Block

theorem subset_render_of_attribute {block : Block} {pair : String × String}
    (h : pair ∈ block.attributes) (level : Nat) :
    pair.2.toList.flatMap escapeInAttribute ⊆ block.render level := by
  rw [render_eq]
  intro c hc
  have hpair : c ∈ renderAttribute pair := by simp [renderAttribute, hc]
  have hmem : c ∈ block.attributes.flatMap renderAttribute := List.mem_flatMap.2 ⟨pair, h, hpair⟩
  simp [hmem]

theorem interior_subset_render {block : Block} (h : ¬(block.text = none ∧ block.children = []))
    (level : Nat) : block.interior level ⊆ block.render level := by
  rw [render_eq, if_neg h]
  intro c hc
  simp [hc]

mutual

theorem hasLegalStrings_of_render (level : Nat) : ∀ block : Block,
    (∀ c ∈ block.render level, isLegal c = true) → block.All HasLegalStrings
  | ⟨name, attributes, text, children⟩, h => by
    refine .intro ⟨?_, ?_⟩ ?_
    · intro pair hpair c hc
      refine (writes_escapeInAttribute c).isLegal_iff.1 fun d hd => h d ?_
      exact subset_render_of_attribute hpair level (List.mem_flatMap.2 ⟨c, hc, hd⟩)
    · intro written hwritten c hc
      obtain rfl : text = some written := hwritten
      refine (writes_escapeInText c).isLegal_iff.1 fun d hd => h d ?_
      have hmem : d ∈ written.toList.flatMap escapeInText := List.mem_flatMap.2 ⟨c, hc, hd⟩
      exact interior_subset_render (by simp) level (by simp [interior, hmem])
    · by_cases hchildren : children = []
      · simp [hchildren]
      · refine hasLegalStrings_of_renderInner (level + 1) text.isSome children fun d hd => h d ?_
        exact interior_subset_render (by simp [hchildren]) level (by simp [interior, hd])

theorem hasLegalStrings_of_renderInner (level : Nat) (afterText : Bool) :
    ∀ children : List Block, (∀ c ∈ renderInner level afterText children, isLegal c = true) →
      ∀ child ∈ children, child.All HasLegalStrings
  | [], _ => by simp
  | child :: rest, h => by
    rw [List.forall_mem_cons]
    constructor
    · refine hasLegalStrings_of_render level child fun d hd => h d ?_
      simp [renderInner, hd]
    · refine hasLegalStrings_of_renderInner level false rest fun d hd => h d ?_
      simp [renderInner, hd]

end

end Block

/-- A document is accepted exactly if all its strings consist of legal characters. -/
theorem exists_ofText_document_iff {block : Block} (hnames : block.All Block.HasNames) :
    (∃ document, Document.ofText (String.ofList block.document) = .ok document)
      ↔ block.All Block.HasLegalStrings := by
  constructor
  · rintro ⟨document, h⟩
    obtain ⟨hname, -⟩ := hnames
    exact block.hasLegalStrings_of_render 0 (isLegal_of_ofText h (scan_document hname.name))
  · intro hstrings
    exact ⟨_, ofText_document (hnames.and hstrings)⟩

end CollectionProfile.Markup
