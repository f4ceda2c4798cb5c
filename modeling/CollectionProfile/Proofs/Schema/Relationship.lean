import CollectionProfile.Proofs.Text.Occurrence
import CollectionProfile.Schema.Relationship

/-!
# Names of tables and of pairs of tables

A pair name is cut at the leftmost joint in it, and only if no joint stands in what is behind that
one (`pairName_halves`). The mark is taken from the name of a table wherever it stands, so two names
can lose their difference with it; names that begin with the mark never do (`entityName_inj`).
-/

namespace CollectionProfile

/-- The name has the form that tables of the data model have. -/
def IsMarked (table : String) : Prop := ∃ name, table = "ca_" ++ name

/-- The entity name of a marked table is what stands behind the mark, whatever marks are in it. -/
theorem entityName_mark (name : String) : entityName ("ca_" ++ name) = name := by
  rw [entityName, String.toList_append]
  exact (congrArg String.ofList (Text.withoutFirst_append _ _)).trans String.ofList_toList

theorem entityName_inj {a b : String} (ha : IsMarked a) (hb : IsMarked b)
    (h : entityName a = entityName b) : a = b := by
  obtain ⟨left, rfl⟩ := ha
  obtain ⟨right, rfl⟩ := hb
  rw [entityName_mark, entityName_mark] at h
  rw [h]

namespace Relationship

/-- The name is cut in two at the leftmost joint in it. -/
structure IsFirstCut (name left right : String) : Prop where
  joined : name = left ++ "_x_" ++ right
  leftmost : ∀ i < left.length, ¬ Text.BeginsAt "_x_".toList name.toList i

variable {name left right : String}

theorem cut?_joint_eq_some_iff :
    Text.cut? joint.toList name.toList = some (left.toList, right.toList) ↔
      IsFirstCut name left right := by
  have hjoined : name.toList = left.toList ++ "_x_".toList ++ right.toList ↔
      name = left ++ "_x_" ++ right := by
    rw [← String.toList_append, ← String.toList_append, String.toList_inj]
  rw [joint, Text.cut?_eq_some_iff, hjoined, String.length_toList]
  exact ⟨fun h => ⟨h.1, h.2⟩, fun h => ⟨h.joined, h.leftmost⟩⟩

theorem exists_isFirstCut (h : "_x_".toList <:+: name.toList) :
    ∃ left right, IsFirstCut name left right := by
  obtain ⟨before, after, hcut⟩ := Text.exists_cut?_of_infix h
  refine ⟨String.ofList before, String.ofList after, cut?_joint_eq_some_iff.1 ?_⟩
  rwa [String.toList_ofList, String.toList_ofList]

theorem splitName?_of_no_joint (h : ¬ "_x_".toList <:+: name.toList) :
    splitName? name = none := by
  have hcut : Text.cut? joint.toList name.toList = none := Text.cut?_eq_none_iff.2 h
  rw [splitName?, hcut]

theorem splitName?_of_isFirstCut (h : IsFirstCut name left right)
    (hlast : ¬ "_x_".toList <:+: right.toList) : splitName? name = some (left, right) := by
  have hsecond : Text.cut? joint.toList right.toList = none := Text.cut?_eq_none_iff.2 hlast
  rw [splitName?, cut?_joint_eq_some_iff.2 h]
  simp only [hsecond, String.ofList_toList]

/-- A joint behind the leftmost leaves the name without halves. -/
theorem splitName?_of_another_joint (h : IsFirstCut name left right)
    (hmore : "_x_".toList <:+: right.toList) : splitName? name = none := by
  obtain ⟨before, after, hcut⟩ := Text.exists_cut?_of_infix hmore
  have hsecond : Text.cut? joint.toList right.toList = some (before, after) := hcut
  rw [splitName?, cut?_joint_eq_some_iff.2 h]
  simp only [hsecond]

theorem splitName?_cases (h : "_x_".toList <:+: name.toList) :
    ∃ left right, IsFirstCut name left right ∧
      ("_x_".toList <:+: right.toList ∧ splitName? name = none ∨
        ¬ "_x_".toList <:+: right.toList ∧ splitName? name = some (left, right)) := by
  obtain ⟨left, right, hcut⟩ := exists_isFirstCut h
  refine ⟨left, right, hcut, ?_⟩
  by_cases hmore : "_x_".toList <:+: right.toList
  · exact .inl ⟨hmore, splitName?_of_another_joint hcut hmore⟩
  · exact .inr ⟨hmore, splitName?_of_isFirstCut hcut hmore⟩

theorem splitName?_eq_some_iff :
    splitName? name = some (left, right) ↔
      IsFirstCut name left right ∧ ¬ "_x_".toList <:+: right.toList := by
  refine ⟨fun h => ?_, fun ⟨hcut, hlast⟩ => splitName?_of_isFirstCut hcut hlast⟩
  by_cases hjoint : "_x_".toList <:+: name.toList
  · obtain ⟨left', right', hcut, ⟨-, hsplit⟩ | ⟨hlast, hsplit⟩⟩ := splitName?_cases hjoint
    · rw [hsplit] at h
      cases h
    · obtain ⟨rfl, rfl⟩ := Prod.mk.inj (Option.some.inj (hsplit.symm.trans h))
      exact ⟨hcut, hlast⟩
  · rw [splitName?_of_no_joint hjoint] at h
    cases h

theorem splitName?_eq_none_iff :
    splitName? name = none ↔ ¬ "_x_".toList <:+: name.toList ∨
      ∃ left right, IsFirstCut name left right ∧ "_x_".toList <:+: right.toList := by
  constructor
  · intro h
    by_cases hjoint : "_x_".toList <:+: name.toList
    · obtain ⟨left, right, hcut, ⟨hmore, -⟩ | ⟨-, hsplit⟩⟩ := splitName?_cases hjoint
      · exact .inr ⟨left, right, hcut, hmore⟩
      · rw [hsplit] at h
        cases h
    · exact .inl hjoint
  · rintro (hjoint | ⟨left, right, hcut, hmore⟩)
    · exact splitName?_of_no_joint hjoint
    · exact splitName?_of_another_joint hcut hmore

/-- A name has two halves exactly where it is cut in two at its leftmost joint and no joint is left
behind. It has none where it holds no joint, or one behind its leftmost. -/
theorem pairName_halves (name : String) :
    (∀ left right, splitName? name = some (left, right) ↔
      name = left ++ "_x_" ++ right ∧
        (∀ i < left.length, ¬ Text.BeginsAt "_x_".toList name.toList i) ∧
        ¬ "_x_".toList <:+: right.toList) ∧
    (splitName? name = none ↔
      ¬ "_x_".toList <:+: name.toList ∨
        ∃ left right, IsFirstCut name left right ∧ "_x_".toList <:+: right.toList) := by
  refine ⟨fun left right => ?_, splitName?_eq_none_iff⟩
  rw [splitName?_eq_some_iff]
  constructor
  · rintro ⟨hcut, hlast⟩
    exact ⟨hcut.joined, hcut.leftmost, hlast⟩
  · rintro ⟨hjoined, hleftmost, hlast⟩
    exact ⟨⟨hjoined, hleftmost⟩, hlast⟩

-- Two joints that overlap: the first takes the sign they share, so the second is none.
example : splitName? "_x_x_" = some ("", "x_") := by decide

end Relationship

end CollectionProfile
