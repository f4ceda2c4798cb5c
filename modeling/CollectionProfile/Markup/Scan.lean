import CollectionProfile.Markup.Character
import CollectionProfile.Markup.Fault
import CollectionProfile.Text.Occurrence

/-!
# Steps of scanning

The small steps that scanners share: a condition that must hold, a mark that must come next, and a
quoted literal. Each step that consumes text states by how much the text gets shorter.
-/

namespace CollectionProfile.Markup

/-- A step that passes exactly when the condition holds. -/
def ensure (condition : Bool) (fault : Fault) : Except Fault Unit :=
  if condition then .ok () else .error fault

/-- Passes when every character of the text is legal in a document. -/
def ensureLegal (text : List Char) : Except Fault Unit :=
  match text.find? (!isLegal ·) with
  | some c => .error (.illegalCharacter c)
  | none => .ok ()

/-- The text after a mark that must come next. -/
def expect (mark : String) (text : List Char) : Except Fault (List Char) :=
  match Text.after? mark.toList text with
  | some rest => .ok rest
  | none => .error (.expected ("'" ++ mark ++ "'"))

/-- The texts before and after a mark that must come at some point. -/
def expectLater (mark : String) (text : List Char) : Except Fault (List Char × List Char) :=
  match Text.cut? mark.toList text with
  | some parts => .ok parts
  | none => .error .unexpectedEnd

/-- The contents of a literal in either kind of quotes, and the rest. -/
def scanQuoted : List Char → Except Fault (List Char × List Char)
  | '"' :: rest => expectLater "\"" rest
  | '\'' :: rest => expectLater "'" rest
  | _ => .error (.expected "a quote")

/-- The text after blanks, at least one of which must come next. -/
def expectSpace : List Char → Except Fault (List Char)
  | [] => .error .unexpectedEnd
  | c :: rest => if isSpace c then .ok (skipSpace rest) else .error (.expected "a blank")

/-! ### What a step that passed tells -/

theorem bind_eq_ok_iff {ε α β : Type} {x : Except ε α} {f : α → Except ε β} {b : β} :
    x >>= f = .ok b ↔ ∃ a, x = .ok a ∧ f a = .ok b := by
  cases x <;> simp [bind, Except.bind]

theorem ensure_eq_ok_iff {condition : Bool} {fault : Fault} {u : Unit} :
    ensure condition fault = .ok u ↔ condition = true := by
  cases condition <;> simp [ensure]

theorem ensureLegal_eq_ok_iff {text : List Char} {u : Unit} :
    ensureLegal text = .ok u ↔ ∀ c ∈ text, isLegal c = true := by
  unfold ensureLegal
  split
  next c h =>
    have hc := List.find?_some h
    have hm := List.mem_of_find?_eq_some h
    simp only [reduceCtorEq, false_iff]
    intro hall
    simp [hall c hm] at hc
  next h => simpa using h

theorem length_lt_of_expect {mark : String} {text rest : List Char} (hm : mark.toList ≠ [])
    (h : expect mark text = .ok rest) : rest.length < text.length := by
  unfold expect at h
  split at h
  next found hf =>
    cases h
    have := Text.length_of_after? hf
    have := List.length_pos_iff.2 hm
    omega
  next => simp at h

theorem length_lt_of_expectLater {mark : String} {text before after : List Char}
    (hm : mark.toList ≠ []) (h : expectLater mark text = .ok (before, after)) :
    after.length < text.length := by
  unfold expectLater at h
  split at h
  next found hf =>
    cases h
    have := Text.length_of_cut? hf
    have := List.length_pos_iff.2 hm
    omega
  next => simp at h

theorem length_lt_of_scanQuoted {text value rest : List Char}
    (h : scanQuoted text = .ok (value, rest)) : rest.length < text.length := by
  unfold scanQuoted at h
  split at h
  next => exact Nat.lt_succ_of_lt (length_lt_of_expectLater (by simp) h)
  next => exact Nat.lt_succ_of_lt (length_lt_of_expectLater (by simp) h)
  next => simp at h

end CollectionProfile.Markup
