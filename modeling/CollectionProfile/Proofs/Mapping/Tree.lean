import CollectionProfile.Mapping.Relations

/-!
# Rules as trees

The rules of a sheet are numbered without a gap, and every rule but the root names an earlier one
as its parent. `NumberedFrom` is the invariant of a run of rules that begins somewhere in the
middle; runs are put together by `NumberedFrom.append`, and a root row in front of a run numbered
from two makes a tree (`IsTree.cons_root`).
-/

namespace CollectionProfile.Mapping

/-- The row is the rule with this number, and its parent has a smaller one. -/
structure Row.StandsAt (row : Row) (number : Nat) : Prop where
  rule : row.rule = .mapping
  id : row.id = toString number
  parent : ∃ parent, 1 ≤ parent ∧ parent < number ∧ row.parent = toString parent

/-- A run of rules numbered from `start` on, each under a rule with a smaller number. -/
def NumberedFrom (start : Nat) (rows : List Row) : Prop :=
  ∀ (i : Nat) (row : Row), rows[i]? = some row → row.StandsAt (start + i)

/-- Rules numbered from one on. The first is the root; every other one names an earlier rule as its
parent. -/
structure IsTree (rules : List Row) : Prop where
  rule : ∀ row ∈ rules, row.rule = .mapping
  id : ∀ (n : Nat) (row : Row), rules[n]? = some row → row.id = toString (n + 1)
  root : ∃ row, rules[0]? = some row ∧ row.parent = "" ∧ row.element = "record"
  parent : ∀ (n : Nat) (row : Row), 0 < n → rules[n]? = some row →
    ∃ (m : Nat) (earlier : Row), m < n ∧ rules[m]? = some earlier ∧ earlier.id = toString (m + 1) ∧
      row.parent = earlier.id

/-- Numbers are told apart by their decimals. -/
theorem eq_of_toString_eq {a b : Nat} (h : toString a = toString b) : a = b := by
  have hdigits : Nat.toDigits 10 a = Nat.toDigits 10 b := by
    rw [← Nat.toList_repr, ← Nat.toList_repr, ← Nat.toString_eq_repr, h, Nat.toString_eq_repr]
  rw [← @Nat.ofDigitChars_ten_toDigits a, hdigits, Nat.ofDigitChars_ten_toDigits]

theorem standsAt_numbered {id parent : Nat} (element source options notes : String)
    (hpos : 1 ≤ parent) (hlt : parent < id) :
    (Row.numbered id (some parent) element source options notes).StandsAt id :=
  ⟨rfl, rfl, parent, hpos, hlt, rfl⟩

namespace NumberedFrom

theorem nil (start : Nat) : NumberedFrom start [] := by
  intro i row h
  simp at h

theorem cons {start : Nat} {row : Row} {rest : List Row} (hrow : row.StandsAt start)
    (hrest : NumberedFrom (start + 1) rest) : NumberedFrom start (row :: rest) := by
  intro i other h
  cases i with
  | zero =>
    obtain rfl : row = other := by simpa using h
    exact hrow
  | succ i =>
    have hother := hrest i other (by simpa using h)
    rwa [Nat.add_assoc, Nat.add_comm 1] at hother

theorem append {start : Nat} {front back : List Row} (hfront : NumberedFrom start front)
    (hback : NumberedFrom (start + front.length) back) : NumberedFrom start (front ++ back) := by
  intro i row h
  by_cases hi : i < front.length
  · rw [List.getElem?_append_left hi] at h
    exact hfront i row h
  · have hle : front.length ≤ i := Nat.le_of_not_lt hi
    rw [List.getElem?_append_right hle] at h
    have hrow := hback _ row h
    rwa [Nat.add_assoc, Nat.add_sub_cancel' hle] at hrow

/-- Items drawn in order from one number on, each made into a row under the same parent. -/
theorem map_zipIdx {α : Type} {start parent : Nat} {items : List α} {toRow : α × Nat → Row}
    (hrow : ∀ item id, parent < id → (toRow (item, id)).StandsAt id) (hlt : parent < start) :
    NumberedFrom start ((items.zipIdx start).map toRow) := by
  intro i row h
  simp only [List.getElem?_map, List.getElem?_zipIdx, Option.map_map, Option.map_eq_some_iff] at h
  obtain ⟨item, -, rfl⟩ := h
  exact hrow item (start + i) (by omega)

theorem rule {start : Nat} {rows : List Row} (h : NumberedFrom start rows) :
    ∀ row ∈ rows, row.rule = .mapping := by
  intro row hmem
  obtain ⟨i, hi⟩ := List.mem_iff_getElem?.1 hmem
  exact (h i row hi).rule

end NumberedFrom

/-- A root row in front of a run that is numbered from two makes a tree. -/
theorem IsTree.cons_root {rest : List Row} (notes : String) (hrest : NumberedFrom 2 rest) :
    IsTree (.root notes :: rest) := by
  have hid : ∀ (n : Nat) (row : Row), (Row.root notes :: rest)[n]? = some row →
      row.id = toString (n + 1) := by
    intro n row h
    cases n with
    | zero =>
      obtain rfl : Row.root notes = row := by simpa using h
      rfl
    | succ n => simpa [Nat.add_comm, Nat.add_left_comm] using (hrest n row (by simpa using h)).id
  refine ⟨?_, hid, ⟨.root notes, rfl, rfl, rfl⟩, ?_⟩
  · intro row hmem
    rcases List.mem_cons.1 hmem with rfl | hmem
    · rfl
    · exact hrest.rule row hmem
  · intro n row hpos h
    obtain ⟨k, rfl⟩ := Nat.exists_eq_succ_of_ne_zero (Nat.ne_of_gt hpos)
    have hrow : rest[k]? = some row := by simpa using h
    obtain ⟨parent, hone, hlt, hparent⟩ := (hrest k row hrow).parent
    obtain ⟨hk, -⟩ := List.getElem?_eq_some_iff.1 hrow
    -- The parent is the number of the row that stands right before it in counting from zero.
    have hbound : parent - 1 < (Row.root notes :: rest).length := by
      rw [List.length_cons]
      omega
    have hget := List.getElem?_eq_getElem hbound
    have hparentId := hid _ _ hget
    rw [Nat.sub_add_cancel hone] at hparentId
    refine ⟨parent - 1, _, by omega, hget, ?_, hparent.trans hparentId.symm⟩
    rw [hparentId, Nat.sub_add_cancel hone]

end CollectionProfile.Mapping
