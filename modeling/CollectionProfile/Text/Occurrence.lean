/-!
# Occurrences of a mark in a text

`Text.after?` strips a mark from the start of a text. `Text.cut?` cuts a text at the leftmost place
where a mark stands; `Text.withoutFirst` removes that one occurrence. The two parts and the mark
between them always give the text back (`eq_of_cut?`).
-/

namespace CollectionProfile.Text

/-- The rest of a text that begins with `mark`. -/
def after? (mark text : List Char) : Option (List Char) :=
  if mark.isPrefixOf text then some (text.drop mark.length) else none

/-- The text before and the text after the leftmost occurrence of `mark`, if there is one. -/
def cut? (mark : List Char) : List Char → Option (List Char × List Char)
  | [] => if mark = [] then some ([], []) else none
  | c :: rest =>
    if mark.isPrefixOf (c :: rest) then some ([], (c :: rest).drop mark.length)
    else (cut? mark rest).map fun (before, after) => (c :: before, after)

/-- The text with the leftmost occurrence of `mark` removed. -/
def withoutFirst (mark text : List Char) : List Char :=
  match cut? mark text with
  | some (before, after) => before ++ after
  | none => text

theorem eq_of_after? {mark text rest : List Char} (h : after? mark text = some rest) :
    text = mark ++ rest := by
  by_cases hp : mark.isPrefixOf text = true
  · obtain ⟨tail, rfl⟩ := List.isPrefixOf_iff_prefix.1 hp
    simpa [after?] using h
  · simp [after?, hp] at h

theorem length_of_after? {mark text rest : List Char} (h : after? mark text = some rest) :
    text.length = mark.length + rest.length := by
  simp [eq_of_after? h]

/-- The parts of a cut, joined by the mark, are the text that was cut. -/
theorem eq_of_cut? {mark text before after : List Char}
    (h : cut? mark text = some (before, after)) :
    text = before ++ mark ++ after := by
  induction text generalizing before with
  | nil =>
    by_cases hm : mark = [] <;> simp_all [cut?]
  | cons c rest ih =>
    by_cases hp : mark.isPrefixOf (c :: rest) = true
    · obtain ⟨tail, ht⟩ := List.isPrefixOf_iff_prefix.1 hp
      simp only [cut?, hp, if_true, Option.some.injEq, Prod.mk.injEq] at h
      obtain ⟨rfl, rfl⟩ := h
      simp [← ht]
    · simp only [cut?, hp, if_false, Option.map_eq_some_iff, Prod.mk.injEq, Prod.exists,
        Bool.false_eq_true] at h
      obtain ⟨b, a, hcut, rfl, rfl⟩ := h
      simpa using ih hcut

theorem length_of_cut? {mark text before after : List Char}
    (h : cut? mark text = some (before, after)) :
    text.length = before.length + mark.length + after.length := by
  simp [eq_of_cut? h, Nat.add_assoc]

end CollectionProfile.Text
