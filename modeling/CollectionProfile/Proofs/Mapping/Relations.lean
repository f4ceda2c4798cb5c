import CollectionProfile.Proofs.Mapping.Tree

/-!
# Numbers of relation rows

The rows of relations are a run of rules that begins at the number their numbering stands at, and
the numbering goes on right after them, as long as the count stays below the limit of numbers. One
group is the step (`groupRows_numbered`), the groups of a base table are the run of it
(`groupsRows_numbered`).
-/

namespace CollectionProfile.Mapping

/-- A compiler's rows, numbered from where the numbering stood, and the numbering right after
them. -/
structure Draws (numbering : Numbering) (result : List Row × Numbering) : Prop where
  rows : NumberedFrom numbering.next result.1
  next : result.2 = ⟨numbering.next + result.1.length⟩

/-- Rows drawn where others end stand behind them in one run. -/
theorem Draws.append {numbering : Numbering} {front back : List Row × Numbering}
    (hfront : Draws numbering front) (hback : Draws front.2 back) :
    Draws numbering (front.1 ++ back.1, back.2) := by
  obtain ⟨hrows, hnext⟩ := hback
  rw [hfront.next] at hrows hnext
  refine ⟨hfront.rows.append hrows, ?_⟩
  rw [hnext, List.length_append, Nat.add_assoc]

theorem length_groupRows (base other : String) (numbering : Numbering) :
    (groupRows base other numbering).1.length = (RelationField.forTable other).length + 2 := by
  simp [groupRows]

/-- Below the limit the container takes the number that comes next, then come the item and the
fields under it. -/
theorem groupRows_eq (base other : String) {numbering : Numbering}
    (room : numbering.next + (groupRows base other numbering).1.length < numberCount) :
    groupRows base other numbering
      = (.numbered numbering.next (some rootId) ("related_" ++ entityName other) "" ""
            ("Relations avec " ++ other)
          :: .numbered (numbering.next + 1) (some numbering.next) (entityName other)
            (base ++ "." ++ other) arrayOption "Élément répétable pour chaque relation"
          :: ((RelationField.forTable other).zipIdx (numbering.next + 2)).map fun (field, id) =>
            .numbered id (some (numbering.next + 1)) field.code
              (base ++ "." ++ other ++ "." ++ field.path) "" field.label,
        ⟨numbering.next + 2 + (RelationField.forTable other).length⟩) := by
  rw [length_groupRows] at room
  have hcontainer : numbering.take.2 = ⟨numbering.next + 1⟩ := Numbering.take_snd (by omega)
  have hitem : (Numbering.mk (numbering.next + 1)).take.2 = ⟨numbering.next + 2⟩ :=
    Numbering.take_snd (show numbering.next + 1 + 1 < numberCount by omega)
  have hfields : Numbering.assign ⟨numbering.next + 2⟩ (RelationField.forTable other)
      = ((RelationField.forTable other).zipIdx (numbering.next + 2),
        ⟨numbering.next + 2 + (RelationField.forTable other).length⟩) :=
    Numbering.assign_eq (show numbering.next + 2 + _ < numberCount by omega)
  simp only [groupRows, Numbering.take_fst, hcontainer, hitem, hfields]

theorem groupRows_numbered (base other : String) {numbering : Numbering}
    (hroot : rootId < numbering.next)
    (room : numbering.next + (groupRows base other numbering).1.length < numberCount) :
    Draws numbering (groupRows base other numbering) := by
  constructor
  · rw [groupRows_eq base other room]
    refine .cons (standsAt_numbered _ _ _ _ (Nat.le_refl 1) hroot) (.cons ?_ ?_)
    · exact standsAt_numbered _ _ _ _ (by omega) (Nat.lt_succ_self _)
    · have hrow : ∀ (field : RelationField) (id : Nat), numbering.next + 1 < id →
          (Row.numbered id (some (numbering.next + 1)) field.code
            (base ++ "." ++ other ++ "." ++ field.path) "" field.label).StandsAt id :=
        fun field id hlt => standsAt_numbered _ _ _ _ (by omega) hlt
      exact .map_zipIdx hrow (Nat.lt_succ_self _)
  · rw [length_groupRows, groupRows_eq base other room, Numbering.mk.injEq]
    omega

theorem groupsRows_numbered (base : String) (others : List String) {numbering : Numbering}
    (hroot : rootId < numbering.next)
    (room : numbering.next + (groupsRows base others numbering).1.length < numberCount) :
    Draws numbering (groupsRows base others numbering) := by
  induction others generalizing numbering with
  | nil => exact ⟨.nil _, rfl⟩
  | cons other rest ih =>
    simp only [groupsRows, List.length_append] at room ⊢
    have hgroup := groupRows_numbered base other hroot (by omega)
    refine hgroup.append (ih ?_ ?_)
    · rw [hgroup.next]
      exact Nat.lt_add_right _ hroot
    · rw [hgroup.next] at room ⊢
      rwa [← Nat.add_assoc] at room

/-- The relation rows compiled from `start` are numbered from `start` on, or from two where that is
later, and the number to go on with is the one after them. -/
theorem compileRelations_numbered (relationships : List Relationship) (base : String) (start : Nat)
    (room : max start 2 + (compileRelations relationships base start).1.length < numberCount) :
    NumberedFrom (max start 2) (compileRelations relationships base start).1 ∧
      (compileRelations relationships base start).2
        = max start 2 + (compileRelations relationships base start).1.length := by
  have hroot : rootId < (Numbering.startingAt start).next := Nat.le_max_right _ _
  have hrows : Draws (.startingAt start) (relationRows relationships base (.startingAt start)) :=
    groupsRows_numbered base _ hroot room
  exact ⟨hrows.rows, congrArg Numbering.next hrows.next⟩

end CollectionProfile.Mapping
