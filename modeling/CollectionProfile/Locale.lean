/-!
# Locale preference

A profile carries the same text in several locales. French is preferred, English comes second, and
what happens to any other locale is a choice of the reader (`Locale.Fallback`). `Locale.pick` finds
the winner in one pass over the candidates.
-/

namespace CollectionProfile.Locale

/-- How much a locale is preferred. -/
inductive Rank
  | other
  | english
  | french
deriving DecidableEq, Repr, Inhabited

namespace Rank

/-- The rank of a locale tag; a missing tag ranks as `other`. -/
def ofTag (tag : Option String) : Rank :=
  if tag = some "fr_FR" ∨ tag = some "fr" then .french
  else if tag = some "en_US" ∨ tag = some "en" then .english
  else .other

/-- French and English are the known locales. -/
def isKnown (rank : Rank) : Bool := rank ≠ .other

end Rank

/-- What becomes of candidates in a locale that is neither French nor English. -/
inductive Fallback
  /-- The first of them is taken while there is no winner. -/
  | firstSeen
  /-- They are passed over. -/
  | ignore
deriving DecidableEq, Repr, Inhabited

/-- A value together with the locale tag it was found under. -/
structure Candidate (α : Type) where
  tag : Option String
  value : α
deriving DecidableEq, Repr

/-- The winner after one more candidate. A French candidate always takes the place of the winner; an
English one, or with `firstSeen` any other, only while there is no winner or a blank one. -/
def prefer {α : Type} (fallback : Fallback) (isBlank : α → Bool) (winner : Option α)
    (candidate : Candidate α) : Option α :=
  let isOpen := winner.all isBlank
  match Rank.ofTag candidate.tag with
  | .french => some candidate.value
  | .english => if isOpen then some candidate.value else winner
  | .other => if isOpen && fallback = .firstSeen then some candidate.value else winner

/-- The winning value among candidates in document order. -/
def pick {α : Type} (fallback : Fallback) (isBlank : α → Bool) (candidates : List (Candidate α)) :
    Option α :=
  candidates.foldl (prefer fallback isBlank) none

/-- The winning text, empty when no candidate qualifies. -/
def resolveText (fallback : Fallback) (candidates : List (Candidate String)) : String :=
  (pick fallback (· = "") candidates).getD ""

/-- The first text in a known locale that is not empty. -/
def firstKnownText (candidates : List (Candidate String)) : Option String :=
  (candidates.find? fun candidate =>
    (Rank.ofTag candidate.tag).isKnown && candidate.value ≠ "").map (·.value)

end CollectionProfile.Locale
