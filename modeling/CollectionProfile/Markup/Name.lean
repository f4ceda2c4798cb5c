import CollectionProfile.Markup.Character
import CollectionProfile.Markup.Fault
import CollectionProfile.Text.Occurrence

/-!
# Names in markup

Simple names, as entities and processing instructions have them, and the qualified names of elements
and attributes, which at most one colon divides into a qualifier and a local name.
-/

namespace CollectionProfile.Markup

/-- The simple name at the start of a text, and the rest. -/
def scanName : List Char → Except Fault (List Char × List Char)
  | [] => .error .badName
  | c :: rest =>
    if isNameStart c then .ok (c :: rest.takeWhile isNameChar, rest.dropWhile isNameChar)
    else .error .badName

/-- A name as it is written on an element or attribute. -/
structure QualifiedName where
  /-- What stands before the colon; empty where there is no colon. -/
  qualifier : String
  localName : String
deriving DecidableEq, Repr, Inhabited

namespace QualifiedName

/-- The name as it is written. -/
def text (name : QualifiedName) : String :=
  if name.qualifier = "" then name.localName else name.qualifier ++ ":" ++ name.localName

/-- The name with the given parts, each of which begins like a name; only the qualifier may be
empty. -/
def ofParts (qualifier localName : List Char) : Except Fault QualifiedName :=
  if qualifier.head?.all isNameStart && localName.head?.any isNameStart then
    .ok ⟨String.ofList qualifier, String.ofList localName⟩
  else .error .badName

/-- The name that a run of name characters spells. -/
def ofRun (run : List Char) : Except Fault QualifiedName :=
  match Text.cut? [':'] run with
  | none => ofParts [] run
  | some (qualifier, localName) =>
    if ':' ∈ localName then .error .badName else ofParts qualifier localName

/-- The qualified name at the start of a text, and the rest. -/
def scan (text : List Char) : Except Fault (QualifiedName × List Char) :=
  match ofRun (text.takeWhile isNameChar) with
  | .ok name => .ok (name, text.dropWhile isNameChar)
  | .error fault => .error fault

end QualifiedName

/-! ### A scanned name shortens the text -/

theorem length_lt_of_scanName {text name rest : List Char} (h : scanName text = .ok (name, rest)) :
    rest.length < text.length := by
  match text with
  | [] => simp [scanName] at h
  | c :: tail =>
    by_cases hc : isNameStart c = true
    · simp only [scanName, hc, if_true, Except.ok.injEq, Prod.mk.injEq] at h
      obtain ⟨_, rfl⟩ := h
      exact Nat.lt_succ_of_le (List.dropWhile_suffix _).length_le
    · simp [scanName, hc] at h

theorem QualifiedName.ofRun_nil : ofRun [] = .error .badName := by
  simp [ofRun, Text.cut?, ofParts]

theorem QualifiedName.length_lt_of_scan {text rest : List Char} {name : QualifiedName}
    (h : scan text = .ok (name, rest)) : rest.length < text.length := by
  unfold scan at h
  split at h
  next found hrun =>
    simp only [Except.ok.injEq, Prod.mk.injEq] at h
    obtain ⟨_, rfl⟩ := h
    cases text with
    | nil => simp [ofRun_nil] at hrun
    | cons c tail =>
      by_cases hc : isNameChar c = true
      · simp only [List.dropWhile_cons, hc, if_true, List.length_cons]
        exact Nat.lt_succ_of_le (List.dropWhile_suffix _).length_le
      · simp [hc, ofRun_nil] at hrun
  next => simp at h

end CollectionProfile.Markup
