import CollectionProfile.Proofs.Markup.RoundTrip

/-!
# Blocks are known by what is written of them

Escaping keeps the strings of a block apart from the markup around them, whatever characters they
hold. So a written block tells the block and where it ends (`isTold_of_all`), as long as its names
are names and no text stands beside inner blocks. Nothing is said here about reading: a document may
well hold characters that no reader accepts.
-/

namespace CollectionProfile.Markup

/-- Two texts that go on with a mark are the same up to it and behind it if neither holds the
mark. -/
theorem append_mark_inj {mark : Char} {before before' after after' : List Char} (h : mark ∉ before)
    (h' : mark ∉ before') (heq : before ++ mark :: after = before' ++ mark :: after') :
    before = before' ∧ after = after' := by
  have hcut := cut?_singleton_append h after
  rw [heq, cut?_singleton_append h', Option.some.injEq, Prod.mk.injEq] at hcut
  exact ⟨hcut.1.symm, hcut.2.symm⟩

theorem Piece.ofText_injective (isReferred : Char → Bool) :
    Function.Injective (Piece.ofText isReferred) := by
  refine List.map_injective_iff.2 fun c d h => ?_
  cases hc : isReferred c <;> cases hd : isReferred d <;> simp_all

/-- An escaped text tells what was escaped, since its pieces are scanned back. -/
theorem Writes.flatMap_inj {escape : Char → List Char} {escaped : Char → Bool}
    (hescape : ∀ c, Writes c (escaped c) (escape c)) {text other : List Char}
    (h : text.flatMap escape = other.flatMap escape) : text = other := by
  have hpieces := Writes.scanAll_flatMap hescape text
  rw [h, Writes.scanAll_flatMap hescape other, Except.ok.injEq] at hpieces
  exact (Piece.ofText_injective escaped hpieces).symm

theorem IsName.append_inj {name other : String} (h : IsName name) (h' : IsName other)
    {stop stop' : Char} (hstop : isNameChar stop = false) (hstop' : isNameChar stop' = false)
    {rest rest' : List Char} (heq : name.toList ++ stop :: rest = other.toList ++ stop' :: rest') :
    name = other ∧ stop :: rest = stop' :: rest' := by
  have hscan := h.scan hstop rest
  rw [heq, h'.scan hstop' rest', Except.ok.injEq, Prod.mk.injEq, QualifiedName.mk.injEq] at hscan
  exact ⟨hscan.1.2.symm, hscan.2.symm⟩

namespace Block

/-- The block's own names are plain, and a text and inner blocks do not meet in it. -/
structure IsUnmixed (block : Block) : Prop extends HasNames block where
  alone : block.text = none ∨ block.children = []

/-! ### Tags -/

theorem renderAttribute_append_inj {pair other : String × String} (h : IsName pair.1)
    (h' : IsName other.1) {rest rest' : List Char}
    (heq : renderAttribute pair ++ rest = renderAttribute other ++ rest') :
    pair = other ∧ rest = rest' := by
  obtain ⟨key, value⟩ := pair
  obtain ⟨key', value'⟩ := other
  have hquote : ∀ value : List Char, '"' ∉ value.flatMap escapeInAttribute :=
    not_mem_escaped writes_escapeInAttribute (by decide) (by decide) (by decide) (by decide)
  have hkeys : key.toList ++ '=' :: '"' :: (value.toList.flatMap escapeInAttribute ++ '"' :: rest)
      = key'.toList ++ '=' :: '"' :: (value'.toList.flatMap escapeInAttribute ++ '"' :: rest') := by
    simpa [renderAttribute] using heq
  obtain ⟨rfl, hvalues⟩ := h.append_inj h' (by decide) (by decide) hkeys
  simp only [List.cons.injEq, true_and] at hvalues
  obtain ⟨hvalue, rfl⟩ := append_mark_inj (hquote _) (hquote _) hvalues
  obtain rfl := String.toList_inj.1 (Writes.flatMap_inj writes_escapeInAttribute hvalue)
  exact ⟨rfl, rfl⟩

/-- Attributes end where no space follows any more. -/
theorem attributes_append_inj {attributes others : List (String × String)}
    (h : ∀ pair ∈ attributes, IsName pair.1) (h' : ∀ pair ∈ others, IsName pair.1)
    {stop stop' : Char} (hstop : stop ≠ ' ') (hstop' : stop' ≠ ' ') {rest rest' : List Char}
    (heq : attributes.flatMap renderAttribute ++ stop :: rest
      = others.flatMap renderAttribute ++ stop' :: rest') :
    attributes = others ∧ stop :: rest = stop' :: rest' := by
  induction attributes generalizing others with
  | nil =>
    cases others with
    | nil => exact ⟨rfl, heq⟩
    | cons other more => exact absurd (List.cons.inj heq).1 hstop
  | cons pair more ih =>
    cases others with
    | nil => exact absurd (List.cons.inj heq).1.symm hstop'
    | cons other others =>
      rw [List.forall_mem_cons] at h h'
      rw [List.flatMap_cons, List.flatMap_cons, List.append_assoc, List.append_assoc] at heq
      obtain ⟨rfl, hmore⟩ := renderAttribute_append_inj h.1 h'.1 heq
      obtain ⟨rfl, hrest⟩ := ih h.2 h'.2 hmore
      exact ⟨rfl, hrest⟩

theorem tag_append_inj {block other : Block} (h : block.HasNames) (h' : other.HasNames)
    {stop stop' : Char} (hstop : isNameChar stop = false) (hstop' : isNameChar stop' = false)
    (hspace : stop ≠ ' ') (hspace' : stop' ≠ ' ') {rest rest' : List Char}
    (heq : block.name.toList ++ (block.attributes.flatMap renderAttribute ++ stop :: rest)
      = other.name.toList ++ (other.attributes.flatMap renderAttribute ++ stop' :: rest')) :
    block.name = other.name ∧ block.attributes = other.attributes ∧
      stop :: rest = stop' :: rest' := by
  -- Right behind the name there is the space of an attribute, or the end of the tag.
  have hnext : ∀ {stop : Char}, isNameChar stop = false →
      ∀ (attributes : List (String × String)) (rest : List Char), ∃ next tail,
        attributes.flatMap renderAttribute ++ stop :: rest = next :: tail ∧
          isNameChar next = false := by
    intro stop hstop attributes rest
    cases attributes with
    | nil => exact ⟨stop, rest, rfl, hstop⟩
    | cons pair more => exact ⟨' ', _, rfl, by decide⟩
  obtain ⟨next, tail, htail, hchar⟩ := hnext hstop block.attributes rest
  obtain ⟨next', tail', htail', hchar'⟩ := hnext hstop' other.attributes rest'
  rw [htail, htail'] at heq
  obtain ⟨hname, hbehind⟩ := h.name.append_inj h'.name hchar hchar' heq
  rw [← htail, ← htail'] at hbehind
  exact ⟨hname, attributes_append_inj h.keys h'.keys hspace hspace' hbehind⟩

/-! ### Interiors -/

theorem exists_render_eq_start {block : Block} (h : block.HasNames) (level : Nat) :
    ∃ first tail, block.render level = '<' :: first :: tail ∧ isNameStart first = true := by
  obtain ⟨first, rest, hname, hfirst⟩ := h.name.exists_cons
  rw [render_eq, hname]
  exact ⟨first, _, rfl, hfirst⟩

theorem not_mem_lineBreak (level : Nat) : '<' ∉ lineBreak level := by
  intro hmem
  rcases mem_lineBreak hmem with hc | hc <;> exact absurd hc (by decide)

/-- Where a block ends, no inner block begins. -/
theorem closing_ne_child {text : List Char} (htext : '<' ∉ text) {child : Block}
    (h : child.HasNames) {level : Nat} {closing rest : List Char} :
    text ++ '<' :: '/' :: closing ≠ lineBreak level ++ (child.render level ++ rest) := by
  intro heq
  obtain ⟨first, tail, hrender, hfirst⟩ := exists_render_eq_start h level
  rw [hrender] at heq
  have hbehind := (append_mark_inj htext (not_mem_lineBreak level) heq).2
  exact ne_of_kind hfirst (by decide) (List.cons.inj hbehind).1.symm

theorem renderInner_false_cons (level : Nat) (child : Block) (rest : List Block)
    (behind : List Char) :
    renderInner level false (child :: rest) ++ behind
      = lineBreak level ++ (render level child ++ (renderInner level false rest ++ behind)) := by
  rw [renderInner_cons, List.append_assoc, List.append_assoc]
  rfl

/-- The written form of the block tells it apart from every other, and where it ends. -/
def IsTold (block : Block) : Prop :=
  ∀ other : Block, other.All IsUnmixed → ∀ (level : Nat) (rest rest' : List Char),
    block.render level ++ rest = other.render level ++ rest' → block = other ∧ rest = rest'

theorem renderInner_append_inj {children others : List Block}
    (h : ∀ child ∈ children, child.HasNames ∧ child.IsTold)
    (h' : ∀ other ∈ others, other.All IsUnmixed) {level outer : Nat} {closing closing' : List Char}
    (heq : renderInner level false children ++ (lineBreak outer ++ '<' :: '/' :: closing)
      = renderInner level false others ++ (lineBreak outer ++ '<' :: '/' :: closing')) :
    children = others ∧ closing = closing' := by
  induction children generalizing others with
  | nil =>
    cases others with
    | nil => simpa [renderInner] using heq
    | cons other more =>
      rw [List.forall_mem_cons] at h'
      rw [renderInner_false_cons] at heq
      exact absurd heq (closing_ne_child (not_mem_lineBreak outer) (all_iff.1 h'.1).1.toHasNames)
  | cons child rest ih =>
    rw [List.forall_mem_cons] at h
    cases others with
    | nil =>
      rw [renderInner_false_cons] at heq
      exact absurd heq.symm (closing_ne_child (not_mem_lineBreak outer) h.1.1)
    | cons other more =>
      rw [List.forall_mem_cons] at h'
      rw [renderInner_false_cons, renderInner_false_cons] at heq
      obtain ⟨rfl, hrest⟩ := h.1.2 other h'.1 level _ _ (List.append_cancel_left heq)
      obtain ⟨rfl, rfl⟩ := ih h.2 h'.2 hrest
      exact ⟨rfl, rfl⟩

/-- What stands in a block that is not empty: a text alone, or inner blocks on lines of their
own. -/
theorem interior_append_cases {block : Block} (h : block.IsUnmixed)
    (hne : ¬(block.text = none ∧ block.children = [])) (level : Nat) (rest : List Char) :
    (∃ text, block.text = some text ∧ block.children = [] ∧ block.interior level ++ rest
      = text.toList.flatMap escapeInText ++ '<' :: '/' :: (block.name.toList ++ '>' :: rest)) ∨
    (block.text = none ∧ ∃ child more, block.children = child :: more ∧
      block.interior level ++ rest = renderInner (level + 1) false block.children
        ++ (lineBreak level ++ '<' :: '/' :: (block.name.toList ++ '>' :: rest))) := by
  cases htext : block.text with
  | some text =>
    have hchildren := h.alone.resolve_left (by simp [htext])
    exact .inl ⟨text, rfl, hchildren, by
      simp [interior, htext, hchildren, renderInner, breakBefore]⟩
  | none =>
    obtain ⟨child, more, hchildren⟩ := List.exists_cons_of_ne_nil fun hnil => hne ⟨htext, hnil⟩
    exact .inr ⟨rfl, child, more, hchildren, by
      simp [interior, htext, hchildren, breakBefore]⟩

theorem interior_append_inj {block other : Block} (h : block.IsUnmixed) (h' : other.IsUnmixed)
    (hname : block.name = other.name) (hne : ¬(block.text = none ∧ block.children = []))
    (hne' : ¬(other.text = none ∧ other.children = []))
    (hinside : ∀ child ∈ block.children, child.HasNames ∧ child.IsTold)
    (hinside' : ∀ child ∈ other.children, child.All IsUnmixed) {level : Nat}
    {rest rest' : List Char} (heq : block.interior level ++ rest = other.interior level ++ rest') :
    block.text = other.text ∧ block.children = other.children ∧ rest = rest' := by
  have hescaped : ∀ text : List Char, '<' ∉ text.flatMap escapeInText :=
    not_mem_escaped writes_escapeInText (by decide) (by decide) (by decide) (by decide)
  rcases interior_append_cases h hne level rest with
    ⟨text, htext, hchildren, hwritten⟩ | ⟨htext, child, more, hchildren, hwritten⟩ <;>
  rcases interior_append_cases h' hne' level rest' with
    ⟨text', htext', hchildren', hwritten'⟩ | ⟨htext', child', more', hchildren', hwritten'⟩ <;>
  rw [hwritten, hwritten'] at heq
  · obtain ⟨hsame, hbehind⟩ := append_mark_inj (hescaped _) (hescaped _) heq
    obtain rfl := String.toList_inj.1 (Writes.flatMap_inj writes_escapeInText hsame)
    rw [hname] at hbehind
    exact ⟨htext.trans htext'.symm, hchildren.trans hchildren'.symm, by simpa using hbehind⟩
  · rw [hchildren', renderInner_false_cons] at heq
    rw [hchildren', List.forall_mem_cons] at hinside'
    exact absurd heq (closing_ne_child (hescaped _) (all_iff.1 hinside'.1).1.toHasNames)
  · rw [hchildren, renderInner_false_cons] at heq
    rw [hchildren, List.forall_mem_cons] at hinside
    exact absurd heq.symm (closing_ne_child (hescaped _) hinside.1.1)
  · obtain ⟨hsame, hbehind⟩ := renderInner_append_inj hinside hinside' heq
    rw [hname] at hbehind
    exact ⟨htext.trans htext'.symm, hsame, by simpa using hbehind⟩

/-! ### Blocks -/

theorem render_append_cases (block : Block) (level : Nat) (rest : List Char) :
    ((block.text = none ∧ block.children = []) ∧ block.render level ++ rest
      = '<' :: (block.name.toList ++ (block.attributes.flatMap renderAttribute
        ++ '/' :: '>' :: rest))) ∨
    (¬(block.text = none ∧ block.children = []) ∧ block.render level ++ rest
      = '<' :: (block.name.toList ++ (block.attributes.flatMap renderAttribute
        ++ '>' :: (block.interior level ++ rest)))) := by
  by_cases hempty : block.text = none ∧ block.children = []
  · exact .inl ⟨hempty, by rw [render_eq, if_pos hempty]; simp⟩
  · exact .inr ⟨hempty, by rw [render_eq, if_neg hempty]; simp⟩

/-- A written block tells itself and what stands behind it. -/
theorem isTold_of_all {block : Block} (h : block.All IsUnmixed) : block.IsTold := by
  induction h with
  | @intro block here inside ih =>
    intro other hother level rest rest' heq
    obtain ⟨here', inside'⟩ := hother
    have hinside : ∀ child ∈ block.children, child.HasNames ∧ child.IsTold := fun child hchild =>
      ⟨(all_iff.1 (inside child hchild)).1.toHasNames, ih child hchild⟩
    have heq_of_parts : block.name = other.name → block.attributes = other.attributes →
        block.text = other.text → block.children = other.children → block = other := by
      cases block
      cases other
      simp_all
    rcases render_append_cases block level rest with ⟨hempty, hwritten⟩ | ⟨hempty, hwritten⟩ <;>
    rcases render_append_cases other level rest' with ⟨hempty', hwritten'⟩ | ⟨hempty', hwritten'⟩ <;>
    rw [hwritten, hwritten'] at heq <;>
    obtain ⟨hname, hattributes, hbehind⟩ := tag_append_inj here.toHasNames here'.toHasNames
      (by decide) (by decide) (by decide) (by decide) (List.cons.inj heq).2
    · refine ⟨heq_of_parts hname hattributes ?_ ?_, by simpa using hbehind⟩
      · rw [hempty.1, hempty'.1]
      · rw [hempty.2, hempty'.2]
    · exact absurd (List.cons.inj hbehind).1 (by decide)
    · exact absurd (List.cons.inj hbehind).1 (by decide)
    · obtain ⟨htext, hchildren, hrest⟩ := interior_append_inj here here' hname hempty hempty'
        hinside inside' (List.cons.inj hbehind).2
      exact ⟨heq_of_parts hname hattributes htext hchildren, hrest⟩

/-- The bytes of the document whose root is the block. -/
def bytes (block : Block) : ByteArray := (String.ofList block.document).toUTF8

/-- Two documents differ in their bytes if their blocks differ. -/
theorem bytes_inj {block other : Block} (h : block.All IsUnmixed) (h' : other.All IsUnmixed) :
    block.bytes = other.bytes ↔ block = other := by
  constructor
  · intro hbytes
    have hdocument : block.document = other.document :=
      String.ofList_inj.1 (String.toByteArray_inj.1 hbytes)
    have hrender : block.render 0 ++ [] = other.render 0 ++ [] := by
      simpa [document] using hdocument
    exact (isTold_of_all h other h' 0 [] [] hrender).1
  · rintro rfl
    rfl

end Block

end CollectionProfile.Markup
