import CollectionProfile.Markup.Block
import CollectionProfile.Markup.Content

/-!
# Reading escaped characters back

Where a character is written as a reference, the reader gives it back as it is; what is written as
itself goes through the settling of line ends in text, and through the blanking of attribute values.
`settledText` and `blanked` say what comes of a whole text and of a whole value (`ofPieces_ofText`,
`attributePieces_ofText`). Which strings come back unchanged is said by `settledText_eq_self_iff` and
`blanked_eq_self_iff`.
-/

namespace CollectionProfile.Markup

theorem isLegal_of_isNameChar {c : Char} (h : isNameChar c = true) : isLegal c = true := by
  simp only [isNameChar, isNameStart, Text.inRanges, List.any_cons, List.any_nil, Bool.or_eq_true,
    Bool.and_eq_true, decide_eq_true_eq, Bool.or_false] at h
  rw [isLegal]
  split
  · omega
  · simp only [bne_iff_ne, Bool.and_eq_true]
    omega

theorem isLegal_of_isSpace {c : Char} (h : isSpace c = true) : isLegal c = true := by
  simp only [isSpace, Bool.or_eq_true, decide_eq_true_eq] at h
  rcases h with ((rfl | rfl) | rfl) | rfl <;> decide

theorem ne_of_kind {kind : Char → Bool} {c mark : Char} (hc : kind c = true)
    (hmark : kind mark = false) : c ≠ mark :=
  ne_of_apply_ne kind (by rw [hc, hmark]; decide)

/-! ### Scanning references -/

theorem scanName_append {first : Char} {name : List Char} (hfirst : isNameStart first = true)
    (hname : ∀ c ∈ name, isNameChar c = true) {stop : Char} (hstop : isNameChar stop = false)
    (rest : List Char) :
    scanName (first :: name ++ stop :: rest) = .ok (first :: name, stop :: rest) := by
  rw [List.cons_append, scanName, if_pos hfirst, List.takeWhile_append_of_pos hname,
    List.dropWhile_append_of_pos hname, List.takeWhile_cons_of_neg (by simp [hstop]),
    List.dropWhile_cons_of_neg (by simp [hstop]), List.append_nil]

namespace Piece

theorem isLegal_of_predefined? {name : List Char} {c : Char} (h : predefined? name = some c) :
    isLegal c = true := by
  have hc : c = '<' ∨ c = '>' ∨ c = '&' ∨ c = '\'' ∨ c = '"' := by grind [predefined?]
  rcases hc with rfl | rfl | rfl | rfl | rfl <;> decide

theorem scanReference_predefined {first : Char} {name : List Char} {c : Char}
    (hfirst : isNameStart first = true) (hname : ∀ d ∈ name, isNameChar d = true)
    (hc : predefined? (first :: name) = some c) (rest : List Char) :
    scanReference (first :: name ++ ';' :: rest) = .ok (.referred c, rest) := by
  have hhash : first ≠ '#' := ne_of_kind hfirst (by decide)
  have hbody : scanBody (first :: name ++ ';' :: rest) = .ok (.referred c, ';' :: rest) := by
    have hscan := scanName_append hfirst hname (show isNameChar ';' = false by decide) rest
    rw [List.cons_append] at hscan ⊢
    simp [scanBody, Text.after?, hhash.symm, hscan, hc, bind, Except.bind, pure, Except.pure]
  rw [scanReference, hbody]
  rfl

theorem scanAll_cons_plain {c : Char} {rest : List Char} {pieces : List Piece} (hc : c ≠ '&')
    (h : scanAll rest = .ok pieces) : scanAll (c :: rest) = .ok (.plain c :: pieces) := by
  rw [scanAll, if_neg hc, h]
  rfl

theorem scanAll_cons_reference {text rest : List Char} {piece : Piece} {pieces : List Piece}
    (hreference : scanReference text = .ok (piece, rest)) (h : scanAll rest = .ok pieces) :
    scanAll ('&' :: text) = .ok (piece :: pieces) := by
  rw [scanAll, if_pos rfl]
  split
  next fault hfault => simp [hfault] at hreference
  next found rest' hok =>
    rw [hreference, Except.ok.injEq, Prod.mk.injEq] at hok
    obtain ⟨rfl, rfl⟩ := hok
    rw [h]
    rfl

end Piece

/-! ### Escaping -/

namespace Piece

/-- The pieces of a text in which the characters of a kind are written as references. -/
def ofText (isReferred : Char → Bool) (text : List Char) : List Piece :=
  text.map fun c => if isReferred c then .referred c else .plain c

variable {isReferred : Char → Bool} {c : Char} {rest : List Char}

theorem ofText_cons_referred (hc : isReferred c = true) :
    ofText isReferred (c :: rest) = .referred c :: ofText isReferred rest := by
  rw [ofText, List.map_cons, if_pos hc, ofText]

theorem ofText_cons_plain (hc : isReferred c = false) :
    ofText isReferred (c :: rest) = .plain c :: ofText isReferred rest := by
  rw [ofText, List.map_cons, hc, if_neg (by decide), ofText]

end Piece

/-- How a character is written: as itself, or as a reference by a name that stands for it. -/
inductive Writes (c : Char) : Bool → List Char → Prop
  | plain (h : c ≠ '&') : Writes c false [c]
  | reference (first : Char) (name : List Char) (hfirst : isNameStart first = true)
      (hname : name.all isNameChar = true) (hc : Piece.predefined? (first :: name) = some c) :
      Writes c true ('&' :: (first :: name ++ [';']))

namespace Writes

theorem mem {c d : Char} {referred : Bool} {written : List Char} (h : Writes c referred written)
    (hd : d ∈ written) : (referred = false ∧ d = c) ∨ d = '&' ∨ d = ';' ∨ isNameChar d = true := by
  cases h with
  | plain => exact .inl ⟨rfl, List.mem_singleton.1 hd⟩
  | reference first name hfirst hname =>
    simp only [List.mem_cons, List.mem_append, List.not_mem_nil, or_false] at hd
    rcases hd with rfl | (rfl | hd) | rfl
    · exact .inr (.inl rfl)
    · exact .inr (.inr (.inr (by simp [isNameChar, hfirst])))
    · exact .inr (.inr (.inr (List.all_eq_true.1 hname d hd)))
    · exact .inr (.inr (.inl rfl))

theorem ne_nil {c : Char} {referred : Bool} {written : List Char} (h : Writes c referred written) :
    written ≠ [] := by
  cases h <;> exact List.cons_ne_nil _ _

theorem isLegal_iff {c : Char} {referred : Bool} {written : List Char}
    (h : Writes c referred written) : (∀ d ∈ written, isLegal d = true) ↔ isLegal c = true := by
  constructor
  · intro hall
    cases h with
    | plain => exact hall c List.mem_cons_self
    | reference first name _ _ hc =>
      exact Piece.isLegal_of_predefined? hc
  · intro hc d hd
    rcases h.mem hd with ⟨-, rfl⟩ | rfl | rfl | hname
    · exact hc
    · decide
    · decide
    · exact isLegal_of_isNameChar hname

theorem scanAll_append {c : Char} {referred : Bool} {written rest : List Char}
    {pieces : List Piece} (hc : Writes c referred written) (h : Piece.scanAll rest = .ok pieces) :
    Piece.scanAll (written ++ rest)
      = .ok ((if referred then .referred c else .plain c) :: pieces) := by
  cases hc with
  | plain hc => exact Piece.scanAll_cons_plain hc h
  | reference first name hfirst hname hc =>
    have hreference :=
      Piece.scanReference_predefined hfirst (List.all_eq_true.1 hname) hc rest
    rw [List.cons_append, List.append_assoc, List.singleton_append]
    exact Piece.scanAll_cons_reference hreference h

theorem scanAll_flatMap {escape : Char → List Char} {escaped : Char → Bool}
    (hescape : ∀ c, Writes c (escaped c) (escape c)) (text : List Char) :
    Piece.scanAll (text.flatMap escape) = .ok (Piece.ofText escaped text) := by
  induction text with
  | nil =>
    rw [List.flatMap_nil, Piece.scanAll]
    rfl
  | cons c rest ih =>
    rw [List.flatMap_cons, Piece.ofText, List.map_cons]
    exact scanAll_append (hescape c) ih

end Writes

namespace Block

/-- The characters that are written as references in text. -/
def isMarkup (c : Char) : Bool := c = '<' || c = '>' || c = '&'

/-- The characters that are written as references in attribute values. -/
def isMarkupOrQuote (c : Char) : Bool := c = '\'' || c = '"' || isMarkup c

theorem writes_escapeInText (c : Char) : Writes c (isMarkup c) (escapeInText c) := by
  unfold escapeInText
  split
  · next h =>
    subst h
    exact .reference 'l' ['t'] (by decide) (by decide) (by decide)
  split
  · next h =>
    subst h
    exact .reference 'g' ['t'] (by decide) (by decide) (by decide)
  split
  · next h =>
    subst h
    exact .reference 'a' ['m', 'p'] (by decide) (by decide) (by decide)
  · next hlt hgt hamp =>
    have hplain : isMarkup c = false := by simp [isMarkup, hlt, hgt, hamp]
    rw [hplain]
    exact .plain hamp

theorem writes_escapeInAttribute (c : Char) :
    Writes c (isMarkupOrQuote c) (escapeInAttribute c) := by
  unfold escapeInAttribute
  split
  · next h =>
    subst h
    exact .reference 'a' ['p', 'o', 's'] (by decide) (by decide) (by decide)
  split
  · next h =>
    subst h
    exact .reference 'q' ['u', 'o', 't'] (by decide) (by decide) (by decide)
  · next hapos hquot =>
    have hsame : isMarkupOrQuote c = isMarkup c := by simp [isMarkupOrQuote, hapos, hquot]
    rw [hsame]
    exact writes_escapeInText c

/-! ### Text -/

/-- Whether a carriage return in text is read as itself: it has a reference right behind it, or it
ends the text right after one. -/
def returnStays (afterMarkup : Bool) (next : Option Char) : Bool := next.elim afterMarkup isMarkup

/-- What a carriage return in text is read as. -/
def settledReturn (afterMarkup : Bool) (next : Option Char) : List Char :=
  if returnStays afterMarkup next then ['\r'] else if next = some '\n' then [] else ['\n']

/-- What a text that is written with references is read as. `afterMarkup` says that a reference
comes right before it. -/
def settledText (afterMarkup : Bool) : List Char → List Char
  | [] => []
  | c :: rest =>
    (if c = '\r' then settledReturn afterMarkup rest.head? else [c])
      ++ settledText (isMarkup c) rest

/-- Whether all carriage returns of a text are read as themselves. -/
def keepsReturns (afterMarkup : Bool) : List Char → Bool
  | [] => true
  | c :: rest =>
    (c != '\r' || returnStays afterMarkup rest.head?) && keepsReturns (isMarkup c) rest

theorem settledText_cons_of_ne {afterMarkup : Bool} {c : Char} {rest : List Char} (hc : c ≠ '\r') :
    settledText afterMarkup (c :: rest) = c :: settledText (isMarkup c) rest := by
  rw [settledText, if_neg hc, List.singleton_append]

theorem settledReturn_some (afterMarkup afterMarkup' : Bool) (next : Char) :
    settledReturn afterMarkup (some next) = settledReturn afterMarkup' (some next) := rfl

theorem isMarkup_false_of {c : Char} (h : c = '\r' ∨ c = '\n') : isMarkup c = false := by
  rcases h with rfl | rfl <;> decide

theorem push_of_head?_ne {settled : List Char} (h : settled.head? ≠ some '\r') (c : Char)
    (isLast : Bool) :
    Segment.push settled c isLast = if isLast && c = '\r' then '\n' :: settled else c :: settled := by
  cases settled with
  | nil => rfl
  | cons d before =>
    have hd : d ≠ '\r' := by simpa using h
    unfold Segment.push
    split
    · next heq => exact absurd (List.cons.inj heq).1 hd
    · rfl

/-- A carriage return that waited becomes a line feed once anything but a line feed comes. -/
theorem push_return_of_ne {c : Char} (hc : c ≠ '\n') (settled : List Char) (isLast : Bool) :
    Segment.push ('\r' :: settled) c isLast = Segment.push ('\n' :: settled) c isLast := by
  have hpush := @push_of_head?_ne ('\n' :: settled) (by simp) c isLast
  rw [hpush]
  simp only [Segment.push, hc, if_false]

/-- Settling goes through the pieces of a text like `settledText`, with the text so far at hand
latest character first. Where that ends in a carriage return, it is not decided yet what the return
is read as. -/
structure Settles (text : List Char) : Prop where
  decided : ∀ settled afterMarkup, settled.head? ≠ some '\r' →
    Segment.settle false settled afterMarkup (Piece.ofText isMarkup text)
      = Segment.flush ((settledText afterMarkup text).reverse ++ settled)
  waiting : ∀ settled,
    Segment.settle false ('\r' :: settled) false (Piece.ofText isMarkup text)
      = Segment.flush ((settledText false text).reverse
        ++ ((settledReturn true text.head?).reverse ++ settled))

namespace Settles

variable {c : Char} {rest : List Char}

theorem nil : Settles [] := ⟨fun _ _ _ => rfl, fun _ => rfl⟩

/-- A reference is appended as it is, also behind a carriage return. -/
theorem settle_markup (h : Settles rest) (hc : isMarkup c = true) (settled : List Char)
    (afterMarkup : Bool) :
    Segment.settle false settled afterMarkup (Piece.ofText isMarkup (c :: rest))
      = Segment.flush ((settledText afterMarkup (c :: rest)).reverse ++ settled) := by
  have hne : c ≠ '\r' := ne_of_kind hc (by decide)
  rw [Piece.ofText_cons_referred hc, Segment.settle, if_neg (by decide),
    h.decided (c :: settled) true (by simpa using hne), settledText_cons_of_ne hne, hc,
    List.reverse_cons, List.append_assoc, List.singleton_append]

theorem settle_other (h : Settles rest) (hc : isMarkup c = false) (hne : c ≠ '\r')
    (settled : List Char) (afterMarkup : Bool) :
    Segment.settle false (c :: settled) false (Piece.ofText isMarkup rest)
      = Segment.flush ((settledText afterMarkup (c :: rest)).reverse ++ settled) := by
  rw [h.decided (c :: settled) false (by simpa using hne), settledText_cons_of_ne hne, hc,
    List.reverse_cons, List.append_assoc, List.singleton_append]

/-- A carriage return waits in the text so far, if something follows it or if it is taken as it
is. -/
theorem settle_return (h : Settles rest) (settled : List Char) {afterMarkup : Bool}
    (hnext : rest ≠ [] ∨ afterMarkup = true) :
    Segment.settle false ('\r' :: settled) false (Piece.ofText isMarkup rest)
      = Segment.flush ((settledText afterMarkup ('\r' :: rest)).reverse ++ settled) := by
  have hreturn : settledReturn true rest.head? = settledReturn afterMarkup rest.head? := by
    cases rest with
    | nil => simp_all
    | cons next _ => exact settledReturn_some _ _ next
  rw [h.waiting, settledText, if_pos rfl, isMarkup_false_of (.inl rfl), hreturn,
    List.reverse_append, List.append_assoc]

theorem settle_push (h : Settles rest) (hc : isMarkup c = false) {settled : List Char}
    (hhead : settled.head? ≠ some '\r') :
    Segment.settle false (Segment.push settled c rest.isEmpty) false (Piece.ofText isMarkup rest)
      = Segment.flush ((settledText false (c :: rest)).reverse ++ settled) := by
  rw [push_of_head?_ne hhead]
  by_cases hr : c = '\r'
  · subst hr
    cases rest with
    | nil => rfl
    | cons next tail => exact h.settle_return settled (.inl (List.cons_ne_nil next tail))
  · rw [if_neg (by simp [hr])]
    exact h.settle_other hc hr settled false

theorem cons_markup (h : Settles rest) (hc : isMarkup c = true) : Settles (c :: rest) := by
  refine ⟨fun settled afterMarkup _ => h.settle_markup hc settled afterMarkup, fun settled => ?_⟩
  have hreturn : settledReturn true (some c) = ['\r'] := by simp [settledReturn, returnStays, hc]
  rw [h.settle_markup hc, List.head?_cons, hreturn]
  rfl

theorem cons_plain (h : Settles rest) (hc : isMarkup c = false) : Settles (c :: rest) := by
  have hempty : (Piece.ofText isMarkup rest).isEmpty = rest.isEmpty := List.isEmpty_map
  constructor
  · intro settled afterMarkup hhead
    rw [Piece.ofText_cons_plain hc, Segment.settle, hempty]
    cases afterMarkup with
    | false => exact h.settle_push hc hhead
    | true =>
      by_cases hr : c = '\r'
      · subst hr
        exact h.settle_return settled (.inr rfl)
      · exact h.settle_other hc hr settled true
  · intro settled
    rw [Piece.ofText_cons_plain hc, Segment.settle, if_neg (by decide), hempty, List.head?_cons]
    by_cases hn : c = '\n'
    · subst hn
      -- The line feed takes the place of the carriage return that waited.
      have hpush : Segment.push ('\r' :: settled) '\n' rest.isEmpty = '\n' :: settled := by
        simp [Segment.push]
      rw [hpush]
      exact h.settle_other hc (by decide) settled false
    · have hreturn : settledReturn true (some c) = ['\n'] := by
        simp [settledReturn, returnStays, hc, hn]
      rw [hreturn, push_return_of_ne hn]
      exact h.settle_push hc (by simp)

end Settles

theorem settles (text : List Char) : Settles text := by
  induction text with
  | nil => exact .nil
  | cons c rest ih =>
    cases hc : isMarkup c with
    | true => exact ih.cons_markup hc
    | false => exact ih.cons_plain hc

theorem ofPieces_ofText (text : List Char) :
    Segment.ofPieces false (Piece.ofText isMarkup text)
      = Segment.flush (settledText false text).reverse := by
  rw [Segment.ofPieces, (settles text).decided [] false (by simp), List.append_nil]

/-- A carriage return that does not stay is read as a line feed, its own or the one behind it. -/
theorem head?_settledText_return {afterMarkup : Bool} {rest : List Char}
    (h : returnStays afterMarkup rest.head? = false) :
    (settledText afterMarkup ('\r' :: rest)).head? = some '\n' := by
  rw [settledText, if_pos rfl, settledReturn, h]
  by_cases hn : rest.head? = some '\n'
  · obtain ⟨tail, rfl⟩ := List.head?_eq_some_iff.1 hn
    rw [settledText_cons_of_ne (by decide)]
    simp
  · simp [hn]

theorem settledText_eq_self_iff {afterMarkup : Bool} {text : List Char} :
    settledText afterMarkup text = text ↔ keepsReturns afterMarkup text = true := by
  induction text generalizing afterMarkup with
  | nil => simp [settledText, keepsReturns]
  | cons c rest ih =>
    by_cases hc : c = '\r'
    · subst hc
      cases hstays : returnStays afterMarkup rest.head? with
      | true => simp [settledText, settledReturn, keepsReturns, hstays, ih]
      | false =>
        have hne : settledText afterMarkup ('\r' :: rest) ≠ '\r' :: rest := by
          intro heq
          have hhead := head?_settledText_return hstays
          rw [heq] at hhead
          exact absurd hhead (by simp)
        simp [keepsReturns, hstays, hne]
    · rw [settledText_cons_of_ne hc, keepsReturns, List.cons_inj_right, ih]
      simp [hc]

theorem keepsReturns_of_not_mem {text : List Char} (h : '\r' ∉ text) (afterMarkup : Bool) :
    keepsReturns afterMarkup text = true := by
  induction text generalizing afterMarkup with
  | nil => rfl
  | cons c rest ih =>
    rw [List.mem_cons, not_or] at h
    rw [keepsReturns, ih h.2, Bool.and_true, Bool.or_eq_true]
    exact .inl (by simpa using Ne.symm h.1)

theorem settledText_of_not_mem {text : List Char} (h : '\r' ∉ text) (afterMarkup : Bool) :
    settledText afterMarkup text = text :=
  settledText_eq_self_iff.2 (keepsReturns_of_not_mem h afterMarkup)

theorem keepsReturns_append {front : List Char} (h : '\r' ∉ front) {c : Char}
    (hc : isMarkup c = false) (hreturn : c ≠ '\r') (rest : List Char) (afterMarkup : Bool) :
    keepsReturns afterMarkup (front ++ c :: rest) = keepsReturns false rest := by
  induction front generalizing afterMarkup with
  | nil => simp [keepsReturns, hreturn, hc]
  | cons d front ih =>
    rw [List.mem_cons, not_or] at h
    have hd : d ≠ '\r' := Ne.symm h.1
    rw [List.cons_append, keepsReturns, ih h.2]
    simp [hd]

/-! ### Attribute values -/

/-- What an attribute value that is written with references is read as. -/
def blanked : List Char → List Char
  | [] => []
  | c :: rest =>
    if c = '\r' ∧ rest.head? = some '\n' then blanked rest
    else (if isSpace c then ' ' else c) :: blanked rest

theorem isSpace_false_of_isMarkupOrQuote {c : Char} (h : isMarkupOrQuote c = true) :
    isSpace c = false := by
  simp only [isMarkupOrQuote, isMarkup, Bool.or_eq_true, decide_eq_true_eq] at h
  rcases h with (rfl | rfl) | (rfl | rfl) | rfl <;> decide

theorem head?_ofText_eq_iff {rest : List Char} :
    (Piece.ofText isMarkupOrQuote rest).head? = some (.plain '\n') ↔ rest.head? = some '\n' := by
  cases rest with
  | nil => simp [Piece.ofText]
  | cons d tail =>
    cases hd : isMarkupOrQuote d with
    | true =>
      have hn : d ≠ '\n' := ne_of_kind hd (by decide)
      simp [Piece.ofText_cons_referred hd, hn]
    | false => simp [Piece.ofText_cons_plain hd]

theorem attributePieces_ofText (expand : String → Expansion (List Char)) (value : List Char) :
    Expansion.attributePieces false expand (Piece.ofText isMarkupOrQuote value)
      = pure (blanked value) := by
  induction value with
  | nil => rfl
  | cons c rest ih =>
    cases hc : isMarkupOrQuote c with
    | true =>
      have hspace := isSpace_false_of_isMarkupOrQuote hc
      have hr : c ≠ '\r' := ne_of_kind hc (by decide)
      simp only [Piece.ofText_cons_referred hc, Expansion.attributePieces, Bool.false_eq_true,
        if_false, ih, pure_bind, blanked, hr, false_and, hspace]
    | false =>
      have hnext := @head?_ofText_eq_iff rest
      simp only [Piece.ofText_cons_plain hc, Expansion.attributePieces, ih, pure_bind, blanked,
        Bool.and_eq_true, decide_eq_true_eq, hnext]
      split <;> rfl

theorem isSpace_blanked {value : List Char} :
    ∀ c ∈ blanked value, isSpace c = true → c = ' ' := by
  induction value with
  | nil => simp [blanked]
  | cons c rest ih =>
    rw [blanked]
    split
    · exact ih
    · intro d hd hspace
      rcases List.mem_cons.1 hd with rfl | hd
      · by_cases hc : isSpace c = true
        · rw [if_pos hc]
        · rw [if_neg hc] at hspace
          exact absurd hspace hc
      · exact ih d hd hspace

/-- A value comes back unchanged exactly if spaces are the only blanks in it. -/
theorem blanked_eq_self_iff {value : List Char} :
    blanked value = value ↔ ∀ c ∈ value, isSpace c = true → c = ' ' := by
  constructor
  · intro h
    rw [← h]
    exact isSpace_blanked
  · intro h
    induction value with
    | nil => rfl
    | cons c rest ih =>
      rw [List.forall_mem_cons] at h
      have hr : c ≠ '\r' := by
        rintro rfl
        exact absurd (h.1 (by decide)) (by decide)
      rw [blanked, if_neg (fun hand => hr hand.1), ih h.2]
      by_cases hc : isSpace c = true
      · rw [if_pos hc, h.1 hc]
      · rw [if_neg hc]

end Block

end CollectionProfile.Markup
