import CollectionProfile.Markup.Document
import CollectionProfile.Proofs.Markup.Escape

/-!
# Accepted content is legal

Whatever a scanner takes off a text, it takes no character that a document may not hold. So from the
root element on, an accepted document holds legal characters only (`isLegal_of_ofText`).
-/

namespace CollectionProfile.Markup

/-- The text goes on as `rest` after legal characters. -/
def LegalUpTo (text rest : List Char) : Prop :=
  ∃ front, text = front ++ rest ∧ ∀ c ∈ front, isLegal c = true

namespace LegalUpTo

theorem refl (text : List Char) : LegalUpTo text text := ⟨[], rfl, by simp⟩

theorem append {front : List Char} (h : ∀ c ∈ front, isLegal c = true) (rest : List Char) :
    LegalUpTo (front ++ rest) rest := ⟨front, rfl, h⟩

theorem cons {c : Char} (hc : isLegal c = true) (rest : List Char) : LegalUpTo (c :: rest) rest :=
  ⟨[c], rfl, by simpa using hc⟩

theorem trans {text middle rest : List Char} (h : LegalUpTo text middle)
    (h' : LegalUpTo middle rest) : LegalUpTo text rest := by
  obtain ⟨front, rfl, hfront⟩ := h
  obtain ⟨back, rfl, hback⟩ := h'
  refine ⟨front ++ back, (List.append_assoc ..).symm, ?_⟩
  rw [List.forall_mem_append]
  exact ⟨hfront, hback⟩

theorem isLegal {text : List Char} (h : LegalUpTo text []) : ∀ c ∈ text, isLegal c = true := by
  obtain ⟨front, rfl, hfront⟩ := h
  rwa [List.append_nil]

/-- A run of characters of a legal kind may be dropped. -/
theorem dropWhile {p : Char → Bool} (hp : ∀ c, p c = true → Markup.isLegal c = true)
    (text : List Char) : LegalUpTo text (text.dropWhile p) :=
  ⟨text.takeWhile p, List.takeWhile_append_dropWhile.symm,
    fun c hc => hp c (List.all_eq_true.1 List.all_takeWhile c hc)⟩

end LegalUpTo

/-! ### Steps of scanning -/

theorem legalUpTo_skipSpace (text : List Char) : LegalUpTo text (skipSpace text) :=
  .dropWhile (fun _ => isLegal_of_isSpace) text

theorem legalUpTo_of_after? {mark text rest : List Char} (h : Text.after? mark text = some rest)
    (hmark : mark.all isLegal = true) : LegalUpTo text rest :=
  ⟨mark, Text.eq_of_after? h, List.all_eq_true.1 hmark⟩

theorem legalUpTo_of_expect {mark : String} {text rest : List Char}
    (h : expect mark text = .ok rest) (hmark : mark.toList.all isLegal = true) :
    LegalUpTo text rest := by
  unfold expect at h
  split at h
  next found hfound =>
    cases h
    exact legalUpTo_of_after? hfound hmark
  next => simp at h

theorem legalUpTo_of_expectLater {mark : String} {text content rest : List Char}
    (h : expectLater mark text = .ok (content, rest))
    (hmark : mark.toList.all isLegal = true) (hcontent : ∀ c ∈ content, isLegal c = true) :
    LegalUpTo text rest := by
  unfold expectLater at h
  split at h
  next parts hparts =>
    cases h
    rw [Text.eq_of_cut? hparts, List.append_assoc]
    exact (LegalUpTo.append hcontent _).trans (.append (List.all_eq_true.1 hmark) _)
  next => simp at h

theorem legalUpTo_of_scanQuoted {text value rest : List Char}
    (h : scanQuoted text = .ok (value, rest)) (hvalue : ∀ c ∈ value, isLegal c = true) :
    LegalUpTo text rest := by
  unfold scanQuoted at h
  split at h
  next tail =>
    exact (LegalUpTo.cons (by decide) tail).trans (legalUpTo_of_expectLater h (by decide) hvalue)
  next tail =>
    exact (LegalUpTo.cons (by decide) tail).trans (legalUpTo_of_expectLater h (by decide) hvalue)
  next => simp at h

theorem legalUpTo_of_scanName {text name rest : List Char}
    (h : scanName text = .ok (name, rest)) : LegalUpTo text rest := by
  cases text with
  | nil => simp [scanName] at h
  | cons c tail =>
    by_cases hc : isNameStart c = true
    · simp only [scanName, hc, if_true, Except.ok.injEq, Prod.mk.injEq] at h
      obtain ⟨-, rfl⟩ := h
      have hlegal : isLegal c = true := isLegal_of_isNameChar (by simp [isNameChar, hc])
      exact (LegalUpTo.cons hlegal tail).trans (.dropWhile (fun _ => isLegal_of_isNameChar) tail)
    · simp [scanName, hc] at h

theorem legalUpTo_of_scanQualified {text rest : List Char} {name : QualifiedName}
    (h : QualifiedName.scan text = .ok (name, rest)) : LegalUpTo text rest := by
  unfold QualifiedName.scan at h
  split at h
  next =>
    cases h
    exact .dropWhile (fun _ => isLegal_of_isNameChar) text
  next => simp at h

/-! ### Tokens -/

theorem legalUpTo_of_scanAttribute {text rest : List Char} {found : RawAttribute}
    (h : RawAttribute.scan text = .ok (found, rest)) : LegalUpTo text rest := by
  simp only [RawAttribute.scan, bind_eq_ok_iff, Prod.exists, ensureLegal_eq_ok_iff] at h
  obtain ⟨name, afterName, hname, afterEquals, hequals, value, afterValue, hvalue, -, -, -,
    hlegal, h⟩ := h
  cases h
  exact (legalUpTo_of_scanQualified hname).trans <| (legalUpTo_skipSpace _).trans <|
    (legalUpTo_of_expect hequals (by decide)).trans <| (legalUpTo_skipSpace _).trans <|
    legalUpTo_of_scanQuoted hvalue hlegal

theorem legalUpTo_of_scanTagEnd {text : List Char} {tag : TagEnd}
    (h : TagEnd.scan text = .ok tag) : LegalUpTo text tag.rest := by
  fun_induction TagEnd.scan text generalizing tag with
  | case1 text hempty =>
    cases h
    rw [List.isEmpty_iff.1 hempty]
    exact .refl []
  | case2 => simp at h
  | case3 text _ rest hopening =>
    cases h
    refine (legalUpTo_skipSpace text).trans ?_
    rw [hopening]
    exact .cons (by decide) rest
  | case4 text _ rest hempty =>
    simp only [bind_eq_ok_iff] at h
    obtain ⟨afterMark, hmark, h⟩ := h
    cases h
    refine (legalUpTo_skipSpace text).trans ?_
    rw [hempty]
    exact (LegalUpTo.cons (by decide) rest).trans (legalUpTo_of_expect hmark (by decide))
  | case5 => simp at h
  | case6 text _ _ _ _ hfirst _ _ _ _ _ ih =>
    simp only [bind_eq_ok_iff] at h
    obtain ⟨tail, htail, h⟩ := h
    cases h
    have hrest := ih htail
    exact (legalUpTo_skipSpace text).trans <| (legalUpTo_of_scanAttribute hfirst).trans hrest
  | case7 => simp at h

namespace Token

variable {text rest : List Char} {token : Token}

theorem legalUpTo_of_scanTag (h : scanTag text = .ok (token, rest)) : LegalUpTo text rest := by
  simp only [scanTag, bind_eq_ok_iff, Prod.exists] at h
  obtain ⟨name, afterName, hname, tag, htag, h⟩ := h
  cases h
  exact (legalUpTo_of_scanQualified hname).trans (legalUpTo_of_scanTagEnd htag)

theorem legalUpTo_of_scanEnd (h : scanEnd text = .ok (token, rest)) : LegalUpTo text rest := by
  simp only [scanEnd, bind_eq_ok_iff, Prod.exists] at h
  obtain ⟨name, afterName, hname, afterMark, hmark, h⟩ := h
  cases h
  exact (legalUpTo_of_scanQualified hname).trans <| (legalUpTo_skipSpace _).trans <|
    legalUpTo_of_expect hmark (by decide)

theorem legalUpTo_of_scanComment (h : scanComment text = .ok (token, rest)) :
    LegalUpTo text rest := by
  simp only [scanComment, bind_eq_ok_iff, Prod.exists, ensureLegal_eq_ok_iff] at h
  obtain ⟨content, after, hcontent, -, hlegal, -, -, h⟩ := h
  cases h
  exact legalUpTo_of_expectLater hcontent (by decide) hlegal

theorem legalUpTo_of_scanInstruction (h : scanInstruction text = .ok (token, rest)) :
    LegalUpTo text rest := by
  simp only [scanInstruction, bind_eq_ok_iff, Prod.exists, ensureLegal_eq_ok_iff] at h
  obtain ⟨-, -, target, afterTarget, htarget, content, after, hcontent, -, hlegal, h⟩ := h
  cases h
  exact (legalUpTo_of_scanName htarget).trans <| (legalUpTo_skipSpace _).trans <|
    legalUpTo_of_expectLater hcontent (by decide) hlegal

theorem legalUpTo_of_scanLiteral (h : scanLiteral text = .ok (token, rest)) :
    LegalUpTo text rest := by
  simp only [scanLiteral, bind_eq_ok_iff, Prod.exists, ensureLegal_eq_ok_iff] at h
  obtain ⟨content, after, hcontent, -, hlegal, h⟩ := h
  cases h
  exact legalUpTo_of_expectLater hcontent (by decide) hlegal

theorem legalUpTo_of_scanText (h : scanText text = .ok (token, rest)) : LegalUpTo text rest := by
  simp only [scanText, bind_eq_ok_iff, ensureLegal_eq_ok_iff] at h
  obtain ⟨-, hlegal, -, -, h⟩ := h
  cases h
  exact ⟨_, List.takeWhile_append_dropWhile.symm, hlegal⟩

theorem legalUpTo_of_scan (h : scan text = .ok (token, rest)) : LegalUpTo text rest := by
  unfold scan at h
  split at h
  next after hafter =>
    exact (legalUpTo_of_after? hafter (by decide)).trans (legalUpTo_of_scanComment h)
  split at h
  next after hafter =>
    exact (legalUpTo_of_after? hafter (by decide)).trans (legalUpTo_of_scanLiteral h)
  split at h
  next => simp at h
  split at h
  next after hafter =>
    exact (legalUpTo_of_after? hafter (by decide)).trans (legalUpTo_of_scanInstruction h)
  split at h
  next after hafter =>
    exact (legalUpTo_of_after? hafter (by decide)).trans (legalUpTo_of_scanEnd h)
  split at h
  next after hafter =>
    exact (legalUpTo_of_after? hafter (by decide)).trans (legalUpTo_of_scanTag h)
  next => exact legalUpTo_of_scanText h

end Token

/-! ### Content -/

theorem Expansion.bind_eq_ok_iff {α β : Type} {x : Expansion α} {f : α → Expansion β}
    {left : Nat} {result : β × Nat} :
    (x >>= f) left = .ok result ↔ ∃ a left', x left = .ok (a, left') ∧ f a left' = .ok result := by
  show (x left >>= fun pair => f pair.1 pair.2) = .ok result ↔ _
  rw [Markup.bind_eq_ok_iff, Prod.exists]

theorem Expansion.liftM_ok_bind {α β : Type} (a : α) (f : α → Expansion β) :
    (liftM (Except.ok a : Except Fault α) : Expansion α) >>= f = f a := rfl

/-- A step that spends nothing. -/
theorem Expansion.liftM_eq_ok_iff {α : Type} {x : Except Fault α} {left : Nat} {result : α × Nat} :
    (liftM x : Expansion α) left = .ok result ↔ x = .ok result.1 ∧ left = result.2 := by
  obtain ⟨a, left'⟩ := result
  cases x with
  | error fault =>
    constructor
    · intro h
      cases h
    · rintro ⟨h, -⟩
      cases h
  | ok b =>
    show (Except.ok (b, left) : Except Fault (α × Nat)) = .ok (a, left') ↔ _
    simp

/-- The reader behind a token of content, where `rest` is left of the text. -/
def Reading.goOn (reading : Reading) (inner : Nat) (hasTag : Bool) (token : Token) (growth : Growth)
    (rest : List Char) : Expansion (Growth × List Char) :=
  match token.innerAfter? inner with
  | some inner => readContent reading inner (hasTag || token.isTag) growth rest
  | none => return (growth, rest)

theorem readContent_eq {text : List Char} (hne : text ≠ []) (reading : Reading) (inner : Nat)
    (hasTag : Bool) (growth : Growth) :
    readContent reading inner hasTag growth text = (do
      let (token, rest) ← Token.scan text
      let growth ← reading.take hasTag growth token
      reading.goOn inner hasTag token growth rest) := by
  rw [readContent, dif_neg hne]
  split
  · next fault hfault =>
    rw [hfault]
    rfl
  · next token rest hscan =>
    simp only [hscan]
    rfl

theorem legalUpTo_of_readContent {reading : Reading} {inner : Nat} {hasTag : Bool}
    {growth after : Growth} {text rest : List Char} {left left' : Nat}
    (h : readContent reading inner hasTag growth text left = .ok ((after, rest), left')) :
    LegalUpTo text rest := by
  -- Every token shortens the text.
  induction hlength : text.length using Nat.strongRecOn
    generalizing inner hasTag growth text left with
  | ind length ih =>
    subst hlength
    by_cases hne : text = []
    · rw [readContent, dif_pos hne] at h
      cases h
      rw [hne]
      exact .refl []
    · rw [readContent_eq hne] at h
      obtain ⟨⟨token, next⟩, _, hscan, h⟩ := Expansion.bind_eq_ok_iff.1 h
      rw [Expansion.liftM_eq_ok_iff] at hscan
      have hnext := Token.legalUpTo_of_scan hscan.1
      obtain ⟨grown, spent, -, h⟩ := Expansion.bind_eq_ok_iff.1 h
      rw [Reading.goOn] at h
      cases hinner : token.innerAfter? inner with
      | none =>
        rw [hinner] at h
        cases h
        exact hnext
      | some inner =>
        rw [hinner] at h
        exact hnext.trans (ih _ (Token.length_lt_of_scan hne hscan.1) h rfl)

theorem legalUpTo_of_readRoot {reading : Reading} {after : Growth} {text rest : List Char}
    {left left' : Nat} (h : readRoot reading text left = .ok ((after, rest), left')) :
    LegalUpTo text rest := by
  obtain ⟨⟨token, next⟩, _, hscan, h⟩ := Expansion.bind_eq_ok_iff.1 h
  rw [Expansion.liftM_eq_ok_iff] at hscan
  have hnext := Token.legalUpTo_of_scan hscan.1
  obtain ⟨_, _, -, h⟩ := Expansion.bind_eq_ok_iff.1 h
  obtain ⟨grown, spent, -, h⟩ := Expansion.bind_eq_ok_iff.1 h
  rcases hinner : token.innerAfter? 0 with _ | _ | inner
  · rw [hinner] at h
    cases h
    exact hnext
  · rw [hinner] at h
    cases h
    exact hnext
  · rw [hinner] at h
    exact hnext.trans (legalUpTo_of_readContent h)

theorem legalUpTo_of_skipMisc {text rest : List Char} (h : Prolog.skipMisc text = .ok rest) :
    LegalUpTo text rest := by
  fun_induction Prolog.skipMisc text with
  | case1 => simp at h
  | case2 text _ _ _ _ hscan _ ih =>
    exact (legalUpTo_skipSpace text).trans <| (Token.legalUpTo_of_scan hscan).trans (ih h)
  | case3 text =>
    obtain rfl : skipSpace text = rest := Except.ok.inj h
    exact legalUpTo_skipSpace text

/-- From the root element on, an accepted document holds legal characters only. -/
theorem isLegal_of_ofText {text : List Char} {document : Document}
    (h : Document.ofText (String.ofList text) = .ok document)
    {entities : List (String × List Char)} {body : List Char}
    (hprolog : Prolog.scan text = .ok (entities, body)) : ∀ c ∈ body, isLegal c = true := by
  rw [Document.ofText, String.toList_ofList, hprolog] at h
  simp only [bind_eq_ok_iff, Except.ok.injEq, exists_eq_left', Prod.exists, ensure_eq_ok_iff] at h
  obtain ⟨growth, rest, left, hroot, rest', hmisc, -, hempty, -⟩ := h
  have hbody := (legalUpTo_of_readRoot hroot).trans (legalUpTo_of_skipMisc hmisc)
  rw [List.isEmpty_iff.1 hempty] at hbody
  exact hbody.isLegal

end CollectionProfile.Markup
