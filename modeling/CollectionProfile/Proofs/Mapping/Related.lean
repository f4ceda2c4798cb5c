import CollectionProfile.Proofs.Mapping.Groups
import Mathlib.Algebra.BigOperators.Group.List.Lemmas
import Mathlib.Algebra.GroupWithZero.Nat

/-!
# Relations seen from both sides

A relationship type between two tables is counted from either of them: each is among the related
tables of the other, with the same count (`relatedTables_bothSides`). The other side is chosen by
a look at the left table alone; what makes the choice symmetric is that only types that touch the
base are asked for it (`Relationship.joins_iff`).
-/

namespace CollectionProfile

namespace Relationship

/-- Whether the two sides are the two tables, in either direction. -/
def joins (relationship : Relationship) (a b : String) : Bool :=
  (relationship.left = a && relationship.right = b)
    || (relationship.left = b && relationship.right = a)

theorem joins_comm (relationship : Relationship) (a b : String) :
    relationship.joins a b = relationship.joins b a := by
  rw [joins, joins, Bool.or_comm]

theorem joins_iff (relationship : Relationship) (a b : String) :
    relationship.joins a b = true ↔
      relationship.touches a = true ∧ relationship.other a = b := by
  simp only [joins, touches, other, Bool.or_eq_true, Bool.and_eq_true, decide_eq_true_iff]
  by_cases hleft : relationship.left = a
  · simp only [hleft, true_and, true_or, if_true]
    constructor
    · rintro (hright | ⟨rfl, hright⟩)
      · exact hright
      · exact hright
    · exact .inl
  · simp only [hleft, false_and, false_or, if_false]
    exact And.comm

end Relationship

namespace Mapping

/-- What the related tables of `a` say about `b`, against what those of `b` say about `a`. -/
structure IsBothSides (relationships : List Relationship) (a b : String) : Prop where
  symmetric : ∀ count,
    (b, count) ∈ relatedTables relationships a ↔ (a, count) ∈ relatedTables relationships b
  counted : ∀ count, (b, count) ∈ relatedTables relationships a ↔
    count = relationships.countP (·.joins a b) ∧ 0 < count
  once : ((relatedTables relationships a).map (·.1)).Nodup
  total : ((relatedTables relationships a).map (·.2)).sum = relationships.countP (·.touches a)
  /-- A type between the two tables makes them related. -/
  seen : ∀ relationship ∈ relationships, relationship.joins a b = true →
    b ∈ (relatedTables relationships a).map (·.1)
  /-- A type between other tables does not show. -/
  unseen : ∀ front other back, relationships = front ++ other :: back → other.touches a = false →
    relatedTables relationships a = relatedTables (front ++ back) a

theorem mem_relatedTables_iff {relationships : List Relationship} {base other : String}
    {count : Nat} :
    (other, count) ∈ relatedTables relationships base ↔
      count = (otherTables relationships base).count other ∧ 0 < count := by
  rw [relatedTables, List.mem_map]
  simp only [List.mem_eraseDups, Prod.mk.injEq]
  constructor
  · rintro ⟨name, hmem, rfl, rfl⟩
    exact ⟨rfl, List.count_pos_iff.2 hmem⟩
  · rintro ⟨rfl, hpos⟩
    exact ⟨other, List.count_pos_iff.1 hpos, rfl, rfl⟩

theorem count_otherTables (relationships : List Relationship) (base other : String) :
    (otherTables relationships base).count other
      = relationships.countP (·.joins base other) := by
  rw [otherTables, List.count, List.countP_map, List.countP_filter]
  apply List.countP_congr
  intro relationship _
  rw [Relationship.joins_iff, Bool.and_eq_true, and_comm, Function.comp_apply, beq_iff_eq]

/-- The types that touch the base, told by the tables that they lead to. -/
theorem sum_relatedTables (relationships : List Relationship) (base : String) :
    ((relatedTables relationships base).map (·.2)).sum
      = relationships.countP (·.touches base) := by
  let others := otherTables relationships base
  have hdistinct : others.eraseDups.Perm others.dedup := by
    apply (List.perm_ext_iff_of_nodup ?_ others.nodup_dedup).2
    · intro name
      rw [List.mem_eraseDups, List.mem_dedup]
    · exact (isFirstOccurrences_eraseDups others).nodup
  calc ((relatedTables relationships base).map (·.2)).sum
      = (others.eraseDups.map fun other => others.count other).sum := by
        rw [relatedTables, List.map_map]
        rfl
    _ = (others.dedup.map fun other => others.count other).sum := (hdistinct.map _).sum_eq
    _ = others.length := List.sum_map_count_dedup_eq_length others
    _ = relationships.countP (·.touches base) := by
        rw [List.countP_eq_length_filter]
        exact List.length_map _

theorem relatedTables_eq_of_not_touches {front back : List Relationship} {other : Relationship}
    {base : String} (h : other.touches base = false) :
    relatedTables (front ++ other :: back) base = relatedTables (front ++ back) base := by
  have hothers : otherTables (front ++ other :: back) base = otherTables (front ++ back) base := by
    rw [otherTables_append, otherTables_append, otherTables_cons_of_not_touches (by simp [h])]
  exact congrArg (fun others => others.eraseDups.map fun other => (other, others.count other))
    hothers

/-- Every relation is among those of either of its two tables, with one count, and among those of
no other table. -/
theorem relatedTables_bothSides (relationships : List Relationship) (a b : String) :
    IsBothSides relationships a b := by
  have hcounted : ∀ (base other : String) (count : Nat),
      (other, count) ∈ relatedTables relationships base ↔
        count = relationships.countP (·.joins base other) ∧ 0 < count := by
    intro base other count
    rw [mem_relatedTables_iff, count_otherTables]
  constructor
  case symmetric =>
    intro count
    rw [hcounted, hcounted]
    simp only [Relationship.joins_comm]
  case counted => exact hcounted a b
  case once =>
    rw [map_fst_relatedTables]
    exact (isFirstOccurrences_eraseDups _).nodup
  case total => exact sum_relatedTables relationships a
  case seen =>
    intro relationship hmem hjoins
    rw [map_fst_relatedTables, List.mem_eraseDups, ← List.count_pos_iff, count_otherTables]
    exact List.countP_pos_iff.2 ⟨relationship, hmem, hjoins⟩
  case unseen =>
    rintro front other back rfl htouches
    exact relatedTables_eq_of_not_touches htouches

end Mapping

end CollectionProfile
