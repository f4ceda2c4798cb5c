import CollectionProfile.Text.Occurrence

/-!
# Leftmost occurrences

A mark may overlap itself, so its occurrences in a text are told by the places where they begin.
`cut?` cuts at the first of these places: the cut is determined by the text before it, in which no
occurrence begins (`cut?_eq_some_iff`), and it fails only on texts without the mark
(`cut?_eq_none_iff`).
-/

namespace CollectionProfile.Text

/-- An occurrence of the mark begins at the place `i` of the text. -/
def BeginsAt (mark text : List Char) (i : Nat) : Prop := mark <+: text.drop i

variable {mark : List Char}

/-- No occurrence begins in the front of a text: neither at its start nor in the front of the
rest. -/
theorem not_beginsAt_cons_iff {c : Char} {rest : List Char} {length : Nat} :
    (∀ i < length + 1, ¬ BeginsAt mark (c :: rest) i) ↔
      ¬ mark <+: c :: rest ∧ ∀ i < length, ¬ BeginsAt mark rest i :=
  Nat.forall_lt_succ_left

theorem cut?_cons_of_begins {c : Char} {rest : List Char} (h : mark <+: c :: rest) :
    cut? mark (c :: rest) = some ([], (c :: rest).drop mark.length) := by
  rw [cut?, if_pos (List.isPrefixOf_iff_prefix.2 h)]

theorem cut?_cons_of_not_begins {c : Char} {rest : List Char} (h : ¬ mark <+: c :: rest) :
    cut? mark (c :: rest) = (cut? mark rest).map fun (before, after) => (c :: before, after) := by
  rw [cut?, if_neg (mt List.isPrefixOf_iff_prefix.1 h)]

theorem not_beginsAt_of_cut? {text before after : List Char}
    (h : cut? mark text = some (before, after)) :
    ∀ i < before.length, ¬ BeginsAt mark text i := by
  -- Along the search: each character that it passes is one more place where no occurrence begins.
  induction text generalizing before with
  | nil =>
    have hlength := length_of_cut? h
    intro i hi
    rw [List.length_nil] at hlength
    omega
  | cons c rest ih =>
    by_cases hbegins : mark <+: c :: rest
    · rw [cut?_cons_of_begins hbegins, Option.some.injEq, Prod.mk.injEq] at h
      simp [← h.1]
    · rw [cut?_cons_of_not_begins hbegins, Option.map_eq_some_iff] at h
      obtain ⟨⟨front, _⟩, hcut, hparts⟩ := h
      obtain ⟨rfl, rfl⟩ := Prod.mk.inj hparts
      exact not_beginsAt_cons_iff.2 ⟨hbegins, ih hcut⟩

/-- Where no occurrence begins before it, the mark between two texts is the one that is cut at, even
if it overlaps another. -/
theorem cut?_append {before after : List Char}
    (h : ∀ i < before.length, ¬ BeginsAt mark (before ++ mark ++ after) i) :
    cut? mark (before ++ mark ++ after) = some (before, after) := by
  induction before with
  | nil =>
    -- The mark may be empty, and then the search can end before it begins.
    cases htext : mark ++ after with
    | nil => simp_all [cut?]
    | cons c rest =>
      have hbegins : mark <+: c :: rest := ⟨after, htext⟩
      rw [List.nil_append, htext, cut?_cons_of_begins hbegins, ← htext, List.drop_left]
  | cons c front ih =>
    simp only [List.cons_append, List.length_cons] at h ⊢
    obtain ⟨hbegins, hrest⟩ := not_beginsAt_cons_iff.1 h
    rw [cut?_cons_of_not_begins hbegins, ih hrest]
    rfl

/-- A text is cut into the two parts that the mark joins, with no occurrence that begins in the
first of them. -/
theorem cut?_eq_some_iff {text before after : List Char} :
    cut? mark text = some (before, after) ↔
      text = before ++ mark ++ after ∧ ∀ i < before.length, ¬ BeginsAt mark text i := by
  constructor
  · exact fun h => ⟨eq_of_cut? h, not_beginsAt_of_cut? h⟩
  · rintro ⟨rfl, h⟩
    exact cut?_append h

theorem cut?_eq_none_iff {text : List Char} : cut? mark text = none ↔ ¬ mark <:+: text := by
  induction text with
  | nil => simp [cut?]
  | cons c rest ih =>
    rw [List.infix_cons_iff, not_or]
    by_cases hbegins : mark <+: c :: rest
    · simp [cut?_cons_of_begins hbegins, hbegins]
    · rw [cut?_cons_of_not_begins hbegins, Option.map_eq_none_iff, ih]
      exact (and_iff_right hbegins).symm

theorem exists_cut?_of_infix {text : List Char} (h : mark <:+: text) :
    ∃ before after, cut? mark text = some (before, after) := by
  cases hcut : cut? mark text with
  | none => exact absurd h (cut?_eq_none_iff.1 hcut)
  | some parts => exact ⟨parts.1, parts.2, rfl⟩

theorem withoutFirst_append (mark rest : List Char) : withoutFirst mark (mark ++ rest) = rest := by
  have hcut : cut? mark (mark ++ rest) = some ([], rest) :=
    cut?_eq_some_iff.2 ⟨rfl, fun i hi => absurd hi i.not_lt_zero⟩
  rw [withoutFirst, hcut]
  rfl

end CollectionProfile.Text
