import CollectionProfile.Proofs.Markup.RoundTrip

/-!
# Blocks that come back unchanged

A block is plain if the reader changes nothing of its strings, and if it has no text beside inner
blocks. A document with plain blocks only is read back as the same tree (`ofText_document_readsAs`).
Between the inner blocks there are the line breaks of the layout, so the tree is the same up to texts
of blanks.
-/

namespace CollectionProfile.Markup

/-- An attribute value that holds no blanks but spaces. -/
def IsPlainValue (value : String) : Prop :=
  ∀ c ∈ value.toList, isLegal c = true ∧ c ≠ '\r' ∧ c ≠ '\n' ∧ c ≠ '\t'

instance (value : String) : Decidable (IsPlainValue value) :=
  decidable_of_iff
    (value.toList.all (fun c => isLegal c && (c != '\r' && (c != '\n' && c != '\t'))) = true)
    (by simp [IsPlainValue])

theorem isPlainValue_iff {value : String} :
    IsPlainValue value ↔ IsLegalString value ∧ Block.blanked value.toList = value.toList := by
  rw [Block.blanked_eq_self_iff]
  constructor
  · intro h
    refine ⟨fun c hc => (h c hc).1, fun c hc hspace => ?_⟩
    obtain ⟨-, hreturn, hfeed, htab⟩ := h c hc
    simp only [isSpace, Bool.or_eq_true, decide_eq_true_eq] at hspace
    simpa [hreturn, hfeed, htab] using hspace
  · rintro ⟨hlegal, hspaces⟩ c hc
    have hne : ∀ blank, isSpace blank = true → blank ≠ ' ' → c ≠ blank := by
      rintro blank hblank hne rfl
      exact hne (hspaces c hc hblank)
    exact ⟨hlegal c hc, hne _ (by decide) (by decide), hne _ (by decide) (by decide),
      hne _ (by decide) (by decide)⟩

/-- A text that is read as itself: its carriage returns, if any, stay because of the references
around them. -/
structure IsPlainText (text : String) : Prop where
  legal : IsLegalString text
  returns : Block.keepsReturns false text.toList = true

instance (text : String) : Decidable (IsPlainText text) :=
  decidable_of_iff (text.toList.all isLegal = true ∧ Block.keepsReturns false text.toList = true)
    ⟨fun h => ⟨List.all_eq_true.1 h.1, h.2⟩, fun h => ⟨List.all_eq_true.2 h.legal, h.returns⟩⟩

namespace Block

/-- The block's own names are plain, its strings hold nothing that the reader changes, and a text
and inner blocks do not meet in it. -/
structure IsPlain (block : Block) : Prop extends HasNames block where
  values : ∀ pair ∈ block.attributes, IsPlainValue pair.2
  text : ∀ text ∈ block.text, ∀ c ∈ text.toList, isLegal c = true ∧ c ≠ '\r'
  alone : block.text = none ∨ block.children = []

instance (block : Block) : Decidable block.IsPlain :=
  decidable_of_iff (block.HasNames
      ∧ (∀ pair ∈ block.attributes, IsPlainValue pair.2)
      ∧ (∀ text ∈ block.text, text.toList.all (fun c => isLegal c && c != '\r') = true)
      ∧ (block.text = none ∨ block.children.isEmpty = true))
    ⟨fun ⟨h₁, h₂, h₃, h₄⟩ => ⟨h₁, h₂, by simpa using h₃, h₄.imp_right List.isEmpty_iff.1⟩,
      fun h => ⟨h.toHasNames, h.values, by simpa using h.text, h.alone.imp_right List.isEmpty_iff.2⟩⟩

/-- The attributes of a block, as an element has them. -/
def ownAttributes (block : Block) : List Attribute :=
  block.attributes.map fun (key, value) => ⟨⟨none, key⟩, value⟩

mutual

/-- The node is the tree of the block: the same name, the same attributes in the same order, and
inside them the same text or the same trees. -/
inductive ReadsAs : Block → Node → Prop
  | leaf {block : Block} {nodes : List Node} (hchildren : block.children = [])
      (htexts : ∀ node ∈ nodes, ∃ content, node = .text content)
      (hcontent : Node.textContents nodes = block.text.getD "") :
      ReadsAs block (.element ⟨none, block.name⟩ block.ownAttributes nodes)
  | branch {block : Block} {nodes : List Node} (hchildren : block.children ≠ [])
      (htext : block.text = none) (hnodes : AllReadAs block.children nodes) :
      ReadsAs block (.element ⟨none, block.name⟩ block.ownAttributes nodes)

/-- The nodes are the trees of the blocks in order, with nothing but blanks around them. -/
inductive AllReadAs : List Block → List Node → Prop
  | nil : AllReadAs [] []
  | blank {content : String} {blocks : List Block} {nodes : List Node}
      (hblank : ∀ c ∈ content.toList, isSpace c = true) (h : AllReadAs blocks nodes) :
      AllReadAs blocks (.text content :: nodes)
  | cons {block : Block} {node : Node} {blocks : List Block} {nodes : List Node}
      (hblock : ReadsAs block node) (h : AllReadAs blocks nodes) :
      AllReadAs (block :: blocks) (node :: nodes)

end

theorem IsPlain.hasLegalStrings {block : Block} (h : block.IsPlain) : block.HasLegalStrings where
  values pair hpair := (isPlainValue_iff.1 (h.values pair hpair)).1
  text text htext c hc := (h.text text htext c hc).1

theorem IsPlain.readAttributes_eq {block : Block} (h : block.IsPlain) :
    readAttributes block.attributes = block.ownAttributes := by
  refine List.map_congr_left fun pair hpair => ?_
  simp only [(isPlainValue_iff.1 (h.values pair hpair)).2, String.ofList_toList]

theorem textNodes_lineBreak (level : Nat) :
    textNodes (lineBreak level) = [.text (String.ofList (lineBreak level))] := by
  have hreturn : '\r' ∉ lineBreak level := by
    intro hmem
    rcases mem_lineBreak hmem with h | h <;> exact absurd h (by decide)
  rw [textNodes, settledText_of_not_mem hreturn]
  rfl

theorem AllReadAs.breakNodes_append {blocks : List Block} {nodes : List Node}
    (h : AllReadAs blocks nodes) (level : Nat) (omitted : Bool) :
    AllReadAs blocks (breakNodes level omitted ++ nodes) := by
  cases omitted with
  | true => exact h
  | false =>
    have hblank : ∀ c ∈ lineBreak level, isSpace c = true := fun _ => isSpace_of_mem_lineBreak
    show AllReadAs blocks (textNodes (lineBreak level) ++ nodes)
    rw [textNodes_lineBreak]
    exact .blank (by simpa using hblank) h

theorem AllReadAs.innerNodes_append {children : List Block} {level : Nat}
    (h : ∀ child ∈ children, ReadsAs child (child.node level)) {nodes : List Node}
    (hnodes : AllReadAs [] nodes) (afterText : Bool) :
    AllReadAs children (innerNodes level afterText children ++ nodes) := by
  induction children generalizing afterText with
  | nil => exact hnodes
  | cons child rest ih =>
    rw [List.forall_mem_cons] at h
    rw [innerNodes, List.append_assoc, List.cons_append]
    exact (AllReadAs.cons h.1 (ih h.2 false)).breakNodes_append level afterText

/-- What is read where a plain block was written is the tree of the block. -/
theorem readsAs_node {block : Block} (h : block.All IsPlain) (level : Nat) :
    ReadsAs block (block.node level) := by
  induction h generalizing level with
  | @intro block hplain _ ih =>
    rw [node_eq, hplain.readAttributes_eq]
    by_cases hchildren : block.children = []
    · have hreturn : '\r' ∉ (block.text.getD "").toList := fun hmem =>
        (forall_mem_text hplain.text '\r' hmem).2 rfl
      have hcontent : Node.textContents (textNodes (block.text.getD "").toList)
          = block.text.getD "" := by
        rw [textContents_textNodes, settledText_of_not_mem hreturn,
          String.ofList_toList]
      have hinner : innerNodes (level + 1) block.text.isSome block.children = [] := by
        rw [hchildren, innerNodes]
      have hbreak : breakNodes level block.children.isEmpty = [] := by
        rw [hchildren]
        rfl
      rw [hinner, hbreak, List.append_nil, List.append_nil]
      exact .leaf hchildren (fun _ hnode => exists_of_mem_textNodes hnode) hcontent
    · have htext : block.text = none := hplain.alone.resolve_right hchildren
      have hbreak := AllReadAs.nil.breakNodes_append level block.children.isEmpty
      rw [List.append_nil] at hbreak
      have hnodes := AllReadAs.innerNodes_append (fun child hchild => ih child hchild (level + 1))
        hbreak block.text.isSome
      refine .branch hchildren htext ?_
      have hempty : textNodes (block.text.getD "").toList = [] := by
        rw [htext]
        rfl
      rwa [hempty, List.nil_append]

end Block

/-- A document with plain blocks is read back as the tree of its root. -/
theorem ofText_document_readsAs {block : Block} (h : block.All Block.IsPlain) :
    ∃ root, Document.ofText (String.ofList block.document) = .ok ⟨[root]⟩
      ∧ Block.ReadsAs block root := by
  have hwritten : block.All fun block => block.HasNames ∧ block.HasLegalStrings :=
    h.imp fun _ hplain => ⟨hplain.toHasNames, hplain.hasLegalStrings⟩
  exact ⟨block.node 0, ofText_document hwritten, Block.readsAs_node h 0⟩

theorem ofText_document_readsAs_nested :
    ∃ root, Document.ofText (String.ofList (Block.document
        ⟨"a", [("k", "<\"'&")], none, [.ofText "b" " x & y ", ⟨"c", [], none, []⟩]⟩))
        = .ok ⟨[root]⟩
      ∧ Block.ReadsAs
        ⟨"a", [("k", "<\"'&")], none, [.ofText "b" " x & y ", ⟨"c", [], none, []⟩]⟩ root := by
  refine ofText_document_readsAs (.intro (by decide) ?_)
  rw [List.forall_mem_cons, List.forall_mem_singleton]
  exact ⟨.intro (by decide) (List.forall_mem_nil _), .intro (by decide) (List.forall_mem_nil _)⟩

end CollectionProfile.Markup
