import CollectionProfile.Proofs.Mapping.Groups
import Mathlib.Data.List.Nodup
import Mathlib.Data.List.Range

/-!
# Relations of several base tables

The relations of several base tables can be compiled with a new numbering for each, begun at the
number that the one before it ended with, or with one numbering for all of them. It comes to the
same (`compileRelations_chained`): a new numbering is raised past the root, but once a table is
compiled there is nothing left to raise. So the rows of all tables are numbered in one run, and a
table without relations takes no number from it.
-/

namespace CollectionProfile.Mapping

/-- Calls one after the other, each with the state that the one before it leaves: what they give,
and the state after the last. -/
def inTurn {α σ : Type} (call : String → σ → α × σ) : List String → σ → List α × σ
  | [], state => ([], state)
  | base :: rest, state =>
    let (first, state) := call base state
    let (more, state) := inTurn call rest state
    (first :: more, state)

/-- What calls with a numbering each come to, against calls that share one. -/
structure IsOneRun (relationships : List Relationship) (bases : List String) (start : Nat)
    (chained : List (List Row) × Nat) (shared : List (List Row) × Numbering) : Prop where
  rows : chained.1 = shared.1
  /-- Without tables there is no call that gives a number to go on with. -/
  next : bases ≠ [] → chained.2 = shared.2.next
  /-- What is compiled after all tables, be there any or not, begins with the same number. -/
  goesOn : Numbering.startingAt chained.2 = shared.2
  ids : chained.1.flatten.map (·.id)
    = (List.range' (max start 2) chained.1.flatten.length).map toString
  distinct : (chained.1.flatten.map (·.id)).Nodup
  pastRoot : ∀ row ∈ chained.1.flatten, ∃ id, 1 < id ∧ row.id = toString id
  last : shared.2.next = max start 2 + chained.1.flatten.length
  /-- Just the tables that no relationship type touches have no rows. -/
  silent : List.Forall₂ (fun base block => block = [] ↔
      ∀ relationship ∈ relationships, relationship.touches base = false)
    bases chained.1

variable {relationships : List Relationship} {base : String} {bases : List String}
  {numbering : Numbering}

/-! ### One table -/

theorem Numbering.startingAt_next (h : rootId < numbering.next) :
    startingAt numbering.next = numbering :=
  congrArg Numbering.mk (Nat.max_eq_left h)

theorem compileRelations_next (h : rootId < numbering.next) :
    compileRelations relationships base numbering.next
      = ((relationRows relationships base numbering).1,
        (relationRows relationships base numbering).2.next) := by
  rw [compileRelations, Numbering.startingAt_next h]

/-- A start at the root or below it is as good as the first number past the root. -/
theorem compileRelations_startingAt (start : Nat) :
    compileRelations relationships base (Numbering.startingAt start).next
      = compileRelations relationships base start :=
  compileRelations_next (Nat.le_max_right _ _)

theorem groupsRows_eq_nil_iff {others : List String} :
    (groupsRows base others numbering).1 = [] ↔ others = [] := by
  cases others with
  | nil => exact iff_of_true rfl rfl
  | cons other rest => simp [groupsRows, groupRows]

theorem relationRows_eq_nil_iff :
    (relationRows relationships base numbering).1 = [] ↔
      ∀ relationship ∈ relationships, relationship.touches base = false := by
  have hothers : (relatedTables relationships base).map (·.1) = [] ↔
      otherTables relationships base = [] := by
    simp only [map_fst_relatedTables, List.eq_nil_iff_forall_not_mem, List.mem_eraseDups]
  rw [relationRows, groupsRows_eq_nil_iff, hothers, otherTables, List.map_eq_nil_iff,
    List.filter_eq_nil_iff]
  simp only [Bool.not_eq_true]

/-! ### Several tables -/

/-- What the first table leaves to the rest: a numbering past the root, with room for them. -/
theorem inTurn_rest {rest : List String} (hroot : rootId < numbering.next)
    (room : numbering.next
        + (inTurn (relationRows relationships) (base :: rest) numbering).1.flatten.length
      < numberCount) :
    Draws numbering (relationRows relationships base numbering) ∧
      rootId < (relationRows relationships base numbering).2.next ∧
      (relationRows relationships base numbering).2.next
          + (inTurn (relationRows relationships) rest
            (relationRows relationships base numbering).2).1.flatten.length
        < numberCount := by
  simp only [inTurn, List.flatten_cons, List.length_append] at room
  have hfirst : Draws numbering (relationRows relationships base numbering) :=
    groupsRows_numbered base _ hroot (Nat.lt_of_le_of_lt (by rw [relationRows]; omega) room)
  have hnext : (relationRows relationships base numbering).2.next
      = numbering.next + (relationRows relationships base numbering).1.length :=
    congrArg Numbering.next hfirst.next
  rw [hnext]
  exact ⟨hfirst, Nat.lt_add_right _ hroot, by rwa [Nat.add_assoc]⟩

theorem inTurn_relationRows_draws (hroot : rootId < numbering.next)
    (room : numbering.next + (inTurn (relationRows relationships) bases numbering).1.flatten.length
      < numberCount) :
    Draws numbering ((inTurn (relationRows relationships) bases numbering).1.flatten,
      (inTurn (relationRows relationships) bases numbering).2) := by
  induction bases generalizing numbering with
  | nil => exact ⟨.nil _, rfl⟩
  | cons base rest ih =>
    obtain ⟨hfirst, hroot', room'⟩ := inTurn_rest hroot room
    simp only [inTurn, List.flatten_cons]
    exact hfirst.append (ih hroot' room')

theorem inTurn_compileRelations (hroot : rootId < numbering.next)
    (room : numbering.next + (inTurn (relationRows relationships) bases numbering).1.flatten.length
      < numberCount) :
    inTurn (compileRelations relationships) bases numbering.next
      = ((inTurn (relationRows relationships) bases numbering).1,
        (inTurn (relationRows relationships) bases numbering).2.next) := by
  -- Past the root a call begins the numbering that the one before it left.
  induction bases generalizing numbering with
  | nil => rfl
  | cons base rest ih =>
    obtain ⟨-, hroot', room'⟩ := inTurn_rest hroot room
    simp only [inTurn, compileRelations_next hroot, ih hroot' room']

theorem forall₂_inTurn_relationRows (bases : List String) (numbering : Numbering) :
    List.Forall₂ (fun base block => block = [] ↔
        ∀ relationship ∈ relationships, relationship.touches base = false)
      bases (inTurn (relationRows relationships) bases numbering).1 := by
  induction bases generalizing numbering with
  | nil => exact .nil
  | cons base rest ih => exact .cons relationRows_eq_nil_iff (ih _)

/-- Wherever the first number is, the calls come to the same as those that share a numbering. -/
theorem inTurn_of_ne_nil {start : Nat} (hbases : bases ≠ [])
    (room : max start 2
        + (inTurn (relationRows relationships) bases (.startingAt start)).1.flatten.length
      < numberCount) :
    inTurn (compileRelations relationships) bases start
      = ((inTurn (relationRows relationships) bases (.startingAt start)).1,
        (inTurn (relationRows relationships) bases (.startingAt start)).2.next) := by
  have hroot : rootId < (Numbering.startingAt start).next := Nat.le_max_right _ _
  rw [← inTurn_compileRelations hroot room]
  cases bases with
  | nil => exact absurd rfl hbases
  | cons base rest => simp only [inTurn, compileRelations_startingAt]

theorem NumberedFrom.map_id {start : Nat} {rows : List Row} (h : NumberedFrom start rows) :
    rows.map (·.id) = (List.range' start rows.length).map toString := by
  refine List.ext_getElem (by simp) fun i hi _ => ?_
  rw [List.length_map] at hi
  rw [List.getElem_map, List.getElem_map, List.getElem_range'_1]
  exact (h i rows[i] (List.getElem?_eq_getElem hi)).id

/-- Compiling the relations of several tables one after the other, each from the number that the
call before it gives, comes to the same as compiling them with one numbering. -/
theorem compileRelations_chained (relationships : List Relationship) (bases : List String)
    (start : Nat)
    (room : max start 2
        + (inTurn (relationRows relationships) bases (.startingAt start)).1.flatten.length
      < 2 ^ 32) :
    IsOneRun relationships bases start (inTurn (compileRelations relationships) bases start)
      (inTurn (relationRows relationships) bases (.startingAt start)) := by
  have hroot : rootId < (Numbering.startingAt start).next := Nat.le_max_right _ _
  have hdraws := inTurn_relationRows_draws hroot room
  have hrows : (inTurn (compileRelations relationships) bases start).1
      = (inTurn (relationRows relationships) bases (.startingAt start)).1 := by
    cases bases with
    | nil => rfl
    | cons base rest => rw [inTurn_of_ne_nil (List.cons_ne_nil base rest) room]
  have hids := hdraws.rows.map_id
  rw [← hrows] at hdraws hids
  constructor
  case rows => exact hrows
  case next =>
    intro hbases
    rw [inTurn_of_ne_nil hbases room]
  case goesOn =>
    -- Without tables the start may still be at the root; else the last number is past it.
    by_cases hbases : bases = []
    · subst hbases
      rfl
    · rw [inTurn_of_ne_nil hbases room, Numbering.startingAt_next]
      rw [hdraws.next]
      exact Nat.lt_add_right _ hroot
  case ids => exact hids
  case distinct =>
    rw [hids]
    exact List.Nodup.map (fun _ _ => eq_of_toString_eq) List.nodup_range'
  case pastRoot =>
    intro row hmem
    obtain ⟨i, hi⟩ := List.mem_iff_getElem?.1 hmem
    exact ⟨_, Nat.lt_add_right _ hroot, (hdraws.rows i row hi).id⟩
  case last => exact congrArg Numbering.next hdraws.next
  case silent =>
    rw [hrows]
    exact forall₂_inTurn_relationRows bases _

/-- The first table has no relations, and the numbers begin below that of the root. -/
theorem compileRelations_chained_silent :
    let relationships : List Relationship :=
      [⟨"creator", "ca_objects", "ca_entities", "", ""⟩,
        ⟨"part", "ca_objects", "ca_objects", "", ""⟩]
    let bases := ["ca_loans", "ca_objects", "ca_entities"]
    let shared := inTurn (relationRows relationships) bases (.startingAt 0)
    max 0 2 + shared.1.flatten.length < 2 ^ 32 ∧
      IsOneRun relationships bases 0 (inTurn (compileRelations relationships) bases 0) shared ∧
      shared.1.map (·.length) = [0, 11, 5] ∧ shared.2.next = 18 :=
  ⟨by decide, compileRelations_chained _ _ _ (by decide), by decide, by decide⟩

end CollectionProfile.Mapping
