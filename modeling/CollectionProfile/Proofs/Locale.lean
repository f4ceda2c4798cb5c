import CollectionProfile.Locale

/-!
# The winner among locales

`Locale.pick` keeps a running winner that later candidates may replace. `Locale.choose` tells the
same winner without one: the last French candidate makes all earlier ones irrelevant, and of the
eligible candidates from there on the first usable value wins. `pick_eq_choose` says that the two
agree.

A text that is resolved this way is lost only to a blank French one behind it
(`resolveText_eq_empty_iff`).
-/

namespace CollectionProfile.Locale

variable {α : Type}

namespace Candidate

/-- The candidate is in French. -/
def isFrench (candidate : Candidate α) : Bool := Rank.ofTag candidate.tag = .french

/-- The candidate may win: it is in a known locale, or any locale will do. -/
def isEligible (fallback : Fallback) (candidate : Candidate α) : Bool :=
  (Rank.ofTag candidate.tag).isKnown || fallback = .firstSeen

theorem isEligible_of_isFrench {candidate : Candidate α} (h : candidate.isFrench = true)
    (fallback : Fallback) : candidate.isEligible fallback = true := by
  have hrank : Rank.ofTag candidate.tag = .french := by simpa [isFrench] using h
  simp [isEligible, Rank.isKnown, hrank]

theorem isFrench_of_not_isEligible {candidate : Candidate α} {fallback : Fallback}
    (h : candidate.isEligible fallback = false) : candidate.isFrench = false := by
  cases hfrench : candidate.isFrench with
  | false => rfl
  | true =>
    rw [isEligible_of_isFrench hfrench] at h
    contradiction

end Candidate

/-- The candidates from the last French one on, or all of them if none is French. -/
def sinceFrench : List (Candidate α) → List (Candidate α)
  | [] => []
  | candidate :: rest =>
    if rest.any (·.isFrench) then sinceFrench rest else candidate :: rest

/-- The first value that is not blank, or the last one if all are blank. -/
def firstUsable (isBlank : α → Bool) (values : List α) : Option α :=
  (values.find? (!isBlank ·)).or values.getLast?

/-- The winning value, told by the candidates from the last French one on. -/
def choose (fallback : Fallback) (isBlank : α → Bool) (candidates : List (Candidate α)) :
    Option α :=
  firstUsable isBlank (((sinceFrench candidates).filter (·.isEligible fallback)).map (·.value))

variable {fallback : Fallback} {isBlank : α → Bool}

/-! ### Usable values -/

theorem firstUsable_cons_of_usable {value : α} (h : isBlank value = false) (rest : List α) :
    firstUsable isBlank (value :: rest) = some value := by
  rw [firstUsable, List.find?_cons_of_pos (by simp [h]), Option.some_or]

/-- A blank value gives way to any value after it. -/
theorem firstUsable_cons_of_blank {value : α} (h : isBlank value = true) {next : α}
    (rest : List α) :
    firstUsable isBlank (value :: next :: rest) = firstUsable isBlank (next :: rest) := by
  rw [firstUsable, List.find?_cons_of_neg (by simp [h]), List.getLast?_cons_cons, firstUsable]

/-! ### One candidate more -/

/-- A candidate that may win takes the place of no winner or of a blank one. -/
theorem prefer_of_isEligible {candidate : Candidate α} (hfrench : candidate.isFrench = false)
    (h : candidate.isEligible fallback = true) (winner : Option α) :
    prefer fallback isBlank winner candidate
      = if winner.all isBlank then some candidate.value else winner := by
  cases hrank : Rank.ofTag candidate.tag with
  | french => simp [Candidate.isFrench, hrank] at hfrench
  | english => simp only [prefer, hrank]
  | other =>
    have hfallback : fallback = .firstSeen := by
      simpa [Candidate.isEligible, Rank.isKnown, hrank] using h
    simp [prefer, hrank, hfallback]

theorem prefer_of_not_isEligible {candidate : Candidate α}
    (h : candidate.isEligible fallback = false) (winner : Option α) :
    prefer fallback isBlank winner candidate = winner := by
  have hrank : Rank.ofTag candidate.tag = .other := by
    cases hrank : Rank.ofTag candidate.tag with
    | other => rfl
    | english => simp [Candidate.isEligible, Rank.isKnown, hrank] at h
    | french => simp [Candidate.isEligible, Rank.isKnown, hrank] at h
  have hfallback : fallback ≠ .firstSeen := by
    rintro rfl
    simp [Candidate.isEligible] at h
  simp [prefer, hrank, hfallback]

theorem prefer_of_isFrench {candidate : Candidate α} (h : candidate.isFrench = true)
    (winner : Option α) : prefer fallback isBlank winner candidate = some candidate.value := by
  have hrank : Rank.ofTag candidate.tag = .french := by simpa [Candidate.isFrench] using h
  simp only [prefer, hrank]

/-! ### Runs -/

/-- Past the French candidates the running winner counts as the first of the values. -/
theorem foldl_prefer_of_not_french {candidates : List (Candidate α)}
    (h : candidates.any (·.isFrench) = false) (winner : Option α) :
    candidates.foldl (prefer fallback isBlank) winner
      = firstUsable isBlank (winner.toList
        ++ (candidates.filter (·.isEligible fallback)).map (·.value)) := by
  induction candidates generalizing winner with
  | nil => cases winner with
    | none => rfl
    | some value => cases hblank : isBlank value <;> simp [firstUsable, hblank]
  | cons candidate rest ih =>
    rw [List.any_cons, Bool.or_eq_false_iff] at h
    rw [List.foldl_cons, ih h.2]
    cases heligible : candidate.isEligible fallback with
    | false =>
      rw [prefer_of_not_isEligible heligible, List.filter_cons_of_neg (by simp [heligible])]
    | true =>
      rw [prefer_of_isEligible h.1 heligible, List.filter_cons_of_pos heligible, List.map_cons]
      cases winner with
      | none => rfl
      | some value =>
        cases hblank : isBlank value with
        | true =>
          rw [if_pos (by simpa using hblank)]
          exact (firstUsable_cons_of_blank hblank _).symm
        | false =>
          rw [if_neg (by simpa using hblank)]
          exact (firstUsable_cons_of_usable hblank _).trans
            (firstUsable_cons_of_usable hblank _).symm

/-- Once a French candidate is to come, it does not matter who has won before. -/
theorem foldl_prefer_of_french {candidates : List (Candidate α)}
    (h : candidates.any (·.isFrench) = true) (winner : Option α) :
    candidates.foldl (prefer fallback isBlank) winner = choose fallback isBlank candidates := by
  induction candidates generalizing winner with
  | nil => simp at h
  | cons candidate rest ih =>
    rw [List.foldl_cons]
    cases hrest : rest.any (·.isFrench) with
    | true => rw [ih hrest, choose, choose, sinceFrench, if_pos hrest]
    | false =>
      have hfrench : candidate.isFrench = true := by simpa [hrest] using h
      rw [prefer_of_isFrench hfrench, foldl_prefer_of_not_french hrest, choose, sinceFrench,
        if_neg (by simp [hrest]),
        List.filter_cons_of_pos (Candidate.isEligible_of_isFrench hfrench fallback)]
      rfl

theorem sinceFrench_eq_self {candidates : List (Candidate α)}
    (h : candidates.any (·.isFrench) = false) : sinceFrench candidates = candidates := by
  cases candidates with
  | nil => rfl
  | cons candidate rest =>
    rw [List.any_cons, Bool.or_eq_false_iff] at h
    rw [sinceFrench, if_neg (by simp [h.2])]

/-- The winner of the one pass is the first usable value among the eligible candidates from the last
French one on. -/
theorem pick_eq_choose (fallback : Fallback) (isBlank : α → Bool)
    (candidates : List (Candidate α)) :
    pick fallback isBlank candidates = choose fallback isBlank candidates := by
  cases hfrench : candidates.any (·.isFrench) with
  | true => exact foldl_prefer_of_french hfrench none
  | false =>
    rw [pick, foldl_prefer_of_not_french hfrench, choose, sinceFrench_eq_self hfrench]
    rfl

/-- A blank French text gives way to the English one behind it, not to the one before it. -/
example : choose .ignore (· = "") [⟨some "en", "A"⟩, ⟨some "fr", ""⟩, ⟨some "de", "B"⟩,
    ⟨some "en_US", "C"⟩] = some "C" := by decide

/-! ### Texts that are lost -/

def HasBlankFrench (candidates : List (Candidate String)) : Prop :=
  ∃ candidate ∈ candidates, candidate.isFrench = true ∧ candidate.value = ""

/-- Every candidate that may win and has a text stands before a blank French one. -/
def AllErased (fallback : Fallback) (candidates : List (Candidate String)) : Prop :=
  ∀ candidate back, candidate :: back <:+ candidates → candidate.isEligible fallback = true →
    candidate.value ≠ "" → HasBlankFrench back

theorem hasBlankFrench_cons_iff {candidate : Candidate String} {rest : List (Candidate String)} :
    HasBlankFrench (candidate :: rest) ↔
      (candidate.isFrench = true ∧ candidate.value = "") ∨ HasBlankFrench rest := by
  simp only [HasBlankFrench, List.mem_cons, exists_eq_or_imp]

theorem allErased_cons_iff {candidate : Candidate String} {rest : List (Candidate String)} :
    AllErased fallback (candidate :: rest) ↔
      (candidate.isEligible fallback = true → candidate.value ≠ "" → HasBlankFrench rest) ∧
        AllErased fallback rest := by
  simp only [AllErased, List.suffix_cons_iff, List.cons.injEq]
  constructor
  · intro h
    exact ⟨h candidate rest (.inl ⟨rfl, rfl⟩), fun next back hback => h next back (.inr hback)⟩
  · rintro ⟨hfirst, hrest⟩ next back (⟨rfl, rfl⟩ | hback)
    · exact hfirst
    · exact hrest next back hback

/-- A run leaves no text exactly if what the winner before it and each candidate bring is blank or
erased in the run. -/
theorem foldl_prefer_eq_empty_iff {candidates : List (Candidate String)} {winner : Option String} :
    (candidates.foldl (prefer fallback (· = "")) winner).getD "" = "" ↔
      (winner.getD "" ≠ "" → HasBlankFrench candidates) ∧ AllErased fallback candidates := by
  induction candidates generalizing winner with
  | nil => simp [HasBlankFrench, AllErased]
  | cons candidate rest ih =>
    rw [List.foldl_cons, ih, allErased_cons_iff, hasBlankFrench_cons_iff]
    have hopen : winner.all (· = "") = true ↔ winner.getD "" = "" := by cases winner <;> simp
    cases heligible : candidate.isEligible fallback with
    | false =>
      rw [prefer_of_not_isEligible heligible]
      simp [Candidate.isFrench_of_not_isEligible heligible]
    | true =>
      -- Either the candidate becomes the winner, and what it brings is the winner's from here on,
      -- or it is not French and the winner that stays has a text.
      cases hfrench : candidate.isFrench with
      | true =>
        rw [prefer_of_isFrench hfrench]
        grind
      | false =>
        rw [prefer_of_isEligible hfrench heligible]
        grind

/-- The resolved text is empty exactly if every eligible candidate with a text has a blank French one
behind it. -/
theorem resolveText_eq_empty_iff (fallback : Fallback) (candidates : List (Candidate String)) :
    resolveText fallback candidates = "" ↔
      ∀ candidate back, candidate :: back <:+ candidates →
        candidate.isEligible fallback = true → candidate.value ≠ "" →
        ∃ blank ∈ back, blank.isFrench = true ∧ blank.value = "" := by
  rw [resolveText, pick, foldl_prefer_eq_empty_iff]
  exact and_iff_right fun h => absurd rfl h

/-- An English text is lost to the blank French one behind it. -/
theorem resolveText_loses_english :
    ¬∀ fallback candidates, resolveText fallback candidates = "" →
      ∀ candidate ∈ candidates, candidate.isEligible fallback = true → candidate.value = "" := by
  intro hclaim
  have hvalue := hclaim .ignore [⟨some "en", "A"⟩, ⟨some "fr", ""⟩] (by decide)
    ⟨some "en", "A"⟩ List.mem_cons_self (by decide)
  simp at hvalue

end CollectionProfile.Locale
