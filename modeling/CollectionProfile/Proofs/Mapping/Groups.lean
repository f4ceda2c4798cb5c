import CollectionProfile.Proofs.Mapping.Relations
import Mathlib.Algebra.Group.Nat.Defs
import Mathlib.Data.List.Forall2
import Mathlib.Data.List.Induction

/-!
# The groups of relation rows

The relations of a base table become one group of rows for each table on the other side, in the
order in which these tables first occur among the relationship types. `compileRelations_groups` gives
all rows, their numbers and the number to go on with. What follows for two lists of relationship
types is said there too: a type that brings no new table changes nothing, and one at the end adds
rows at the end.
-/

namespace CollectionProfile.Mapping

/-- The distinct members of a run, in the order in which they first occur in it. -/
structure IsFirstOccurrences (run distinct : List String) : Prop where
  nodup : distinct.Nodup
  mem_iff : ∀ name, name ∈ distinct ↔ name ∈ run
  order : distinct.Pairwise fun earlier later => run.idxOf earlier < run.idxOf later

/-- The table on the other side of each relationship type that touches the base. -/
def otherTables (relationships : List Relationship) (base : String) : List String :=
  (relationships.filter (·.touches base)).map (·.other base)

/-- The rows of the relations between `base` and `other`, numbered from `id` on: the container, the
item under it, and under the item three fields, or four where the other table is that of the
entities. -/
def relationGroup (base other : String) (id : Nat) : List Row :=
  let source := base ++ "." ++ other
  [.numbered id (some rootId) ("related_" ++ entityName other) "" "" ("Relations avec " ++ other),
    .numbered (id + 1) (some id) (entityName other) source "returnAsArray=true"
      "Élément répétable pour chaque relation",
    .numbered (id + 2) (some (id + 1)) "idno" (source ++ ".idno") "" "Identifiant",
    .numbered (id + 3) (some (id + 1)) "name" (source ++ ".preferred_labels.name") "" "Nom",
    .numbered (id + 4) (some (id + 1)) "relationship_type" (source ++ ".relationship_typename") ""
      "Type de relation"]
  ++ if other = "ca_entities" then
      [.numbered (id + 5) (some (id + 1)) "entity_type" (source ++ ".type_id") "" "Type d'entité"]
    else []

/-- The block holds the rows of the relations between `base` and `other`. -/
def IsRelationGroup (base other : String) (block : List Row) : Prop :=
  ∃ id, block = relationGroup base other id

/-- The rows compiled for the relations of `base` from `start` on, and the number after them. -/
structure IsRelationPart (relationships : List Relationship) (base : String) (start : Nat)
    (rows : List Row) (next : Nat) : Prop where
  groups : ∃ others blocks, IsFirstOccurrences (otherTables relationships base) others ∧
    rows = blocks.flatten ∧ List.Forall₂ (IsRelationGroup base) others blocks
  ids : ∀ i row, rows[i]? = some row → row.id = toString (max start 2 + i)
  noRoot : ∀ row ∈ rows, row.id ≠ toString rootId
  next : next = max start 2 + rows.length

/-! ### First occurrences -/

theorem eraseDups_append_singleton (run : List String) (name : String) :
    (run ++ [name]).eraseDups = run.eraseDups ++ if name ∈ run then [] else [name] := by
  rw [List.eraseDups_append]
  by_cases h : name ∈ run <;> simp [List.removeAll, List.eraseDups_cons, h]

/-- Members that stand in front already add nothing. -/
theorem eraseDups_append_cons_of_mem {front : List String} {name : String} (h : name ∈ front)
    (back : List String) : (front ++ name :: back).eraseDups = (front ++ back).eraseDups := by
  rw [List.eraseDups_append, List.eraseDups_append]
  simp [List.removeAll, h]

theorem pairwise_eraseDups (run : List String) :
    run.eraseDups.Pairwise fun earlier later => run.idxOf earlier < run.idxOf later := by
  -- One more member at the end leaves the places of the others as they are.
  induction run using List.reverseRecOn with
  | nil => exact .nil
  | append_singleton run name ih =>
    have hplace : ∀ {other}, other ∈ run.eraseDups → (run ++ [name]).idxOf other = run.idxOf other :=
      fun hother => List.idxOf_append_of_mem (List.mem_eraseDups.1 hother)
    rw [eraseDups_append_singleton, List.pairwise_append]
    refine ⟨ih.imp_of_mem fun hearlier hlater hlt => ?_, ?_, fun earlier hearlier later hlater => ?_⟩
    · rwa [hplace hearlier, hplace hlater]
    · split
      · exact .nil
      · exact List.pairwise_singleton _ _
    · split at hlater
      · cases hlater
      · next hfresh =>
        obtain rfl := List.mem_singleton.1 hlater
        rw [hplace hearlier, List.idxOf_append_of_notMem hfresh]
        exact Nat.lt_add_right _ (List.idxOf_lt_length_of_mem (List.mem_eraseDups.1 hearlier))

theorem isFirstOccurrences_eraseDups (run : List String) :
    IsFirstOccurrences run run.eraseDups where
  nodup := (pairwise_eraseDups run).imp fun hlt => ne_of_apply_ne run.idxOf (Nat.ne_of_lt hlt)
  mem_iff _ := List.mem_eraseDups
  order := pairwise_eraseDups run

/-! ### Which tables are related -/

theorem map_fst_relatedTables (relationships : List Relationship) (base : String) :
    (relatedTables relationships base).map (·.1) = (otherTables relationships base).eraseDups := by
  rw [relatedTables, List.map_map]
  exact List.map_id _

theorem otherTables_append (front back : List Relationship) (base : String) :
    otherTables (front ++ back) base = otherTables front base ++ otherTables back base := by
  rw [otherTables, List.filter_append, List.map_append, otherTables, otherTables]

theorem otherTables_cons_of_touches {relationship : Relationship} {base : String}
    (h : relationship.touches base = true) (rest : List Relationship) :
    otherTables (relationship :: rest) base = relationship.other base :: otherTables rest base := by
  simp [otherTables, h]

theorem otherTables_cons_of_not_touches {relationship : Relationship} {base : String}
    (h : ¬ relationship.touches base = true) (rest : List Relationship) :
    otherTables (relationship :: rest) base = otherTables rest base := by
  simp [otherTables, h]

/-- A relationship type that does not touch the base, or leads where an earlier one leads, relates
no further table to it. -/
theorem relatedTables_insert {front : List Relationship} {added : Relationship} {base : String}
    (h : added.touches base = false ∨
      ∃ earlier ∈ front, earlier.touches base = true ∧ earlier.other base = added.other base)
    (back : List Relationship) :
    (relatedTables (front ++ added :: back) base).map (·.1)
      = (relatedTables (front ++ back) base).map (·.1) := by
  rw [map_fst_relatedTables, map_fst_relatedTables, otherTables_append, otherTables_append]
  by_cases htouches : added.touches base = true
  · obtain ⟨earlier, hmem, hearlier, hsame⟩ := h.resolve_left (by simp [htouches])
    have hother : added.other base ∈ otherTables front base :=
      List.mem_map.2 ⟨earlier, List.mem_filter.2 ⟨hmem, hearlier⟩, hsame⟩
    rw [otherTables_cons_of_touches htouches, eraseDups_append_cons_of_mem hother]
  · rw [otherTables_cons_of_not_touches htouches]

theorem exists_relatedTables_append (relationships more : List Relationship) (base : String) :
    ∃ others, (relatedTables (relationships ++ more) base).map (·.1)
      = (relatedTables relationships base).map (·.1) ++ others := by
  rw [map_fst_relatedTables, map_fst_relatedTables, otherTables_append, List.eraseDups_append]
  exact ⟨_, rfl⟩

/-! ### Rows -/

theorem groupRows_eq_relationGroup (base other : String) {numbering : Numbering}
    (room : numbering.next + (groupRows base other numbering).1.length < numberCount) :
    groupRows base other numbering
      = (relationGroup base other numbering.next,
        ⟨numbering.next + (relationGroup base other numbering.next).length⟩) := by
  rw [groupRows_eq base other room]
  by_cases hentities : other = "ca_entities" <;>
    simp [relationGroup, RelationField.forTable, RelationField.common, RelationField.entityType,
      entitiesTable, arrayOption, hentities, String.append_assoc]

/-- The groups stand one after the other, each numbered on from where the one before it ends. -/
theorem groupsRows_groups (base : String) (others : List String) {numbering : Numbering}
    (room : numbering.next + (groupsRows base others numbering).1.length < numberCount) :
    ∃ blocks, (groupsRows base others numbering).1 = blocks.flatten ∧
      List.Forall₂ (IsRelationGroup base) others blocks := by
  induction others generalizing numbering with
  | nil => exact ⟨[], rfl, .nil⟩
  | cons other rest ih =>
    simp only [groupsRows, List.length_append] at room ⊢
    have hgroup : groupRows base other numbering
        = (relationGroup base other numbering.next,
          ⟨numbering.next + (relationGroup base other numbering.next).length⟩) :=
      groupRows_eq_relationGroup base other (by omega)
    rw [hgroup] at room ⊢
    obtain ⟨blocks, hrows, hblocks⟩ :=
      @ih ⟨numbering.next + (relationGroup base other numbering.next).length⟩ (by
        rwa [Nat.add_assoc])
    refine ⟨relationGroup base other numbering.next :: blocks, ?_, .cons ⟨_, rfl⟩ hblocks⟩
    rw [hrows, List.flatten_cons]

theorem groupsRows_append (base : String) (front back : List String) (numbering : Numbering) :
    (groupsRows base (front ++ back) numbering).1
      = (groupsRows base front numbering).1
        ++ (groupsRows base back (groupsRows base front numbering).2).1 := by
  induction front generalizing numbering with
  | nil => rfl
  | cons other rest ih =>
    simp only [List.cons_append, groupsRows, ih, List.append_assoc]

/-- The rows of the relations hang on the order of the related tables alone. -/
theorem compileRelations_congr {relationships relationships' : List Relationship} {base : String}
    (h : (relatedTables relationships base).map (·.1)
      = (relatedTables relationships' base).map (·.1)) (start : Nat) :
    compileRelations relationships base start = compileRelations relationships' base start := by
  rw [compileRelations, compileRelations, relationRows, relationRows, h]

theorem exists_compileRelations_append (relationships more : List Relationship) (base : String)
    (start : Nat) :
    ∃ rows, (compileRelations (relationships ++ more) base start).1
      = (compileRelations relationships base start).1 ++ rows := by
  obtain ⟨others, hothers⟩ := exists_relatedTables_append relationships more base
  simp only [compileRelations, relationRows, hothers, groupsRows_append]
  exact ⟨_, rfl⟩

theorem isRelationPart_compileRelations (relationships : List Relationship) (base : String)
    (start : Nat)
    (room : max start 2 + (compileRelations relationships base start).1.length < numberCount) :
    IsRelationPart relationships base start (compileRelations relationships base start).1
      (compileRelations relationships base start).2 := by
  have hroom : (Numbering.startingAt start).next
      + (relationRows relationships base (.startingAt start)).1.length < numberCount := room
  obtain ⟨hnumbered, hnext⟩ := compileRelations_numbered relationships base start room
  constructor
  case groups =>
    have hothers := isFirstOccurrences_eraseDups (otherTables relationships base)
    rw [← map_fst_relatedTables] at hothers
    obtain ⟨blocks, hrows, hblocks⟩ :=
      groupsRows_groups base ((relatedTables relationships base).map (·.1)) hroom
    exact ⟨_, blocks, hothers, hrows, hblocks⟩
  case ids => exact fun i row hrow => (hnumbered i row hrow).id
  case noRoot =>
    intro row hmem hroot
    obtain ⟨i, hi⟩ := List.mem_iff_getElem?.1 hmem
    have hid : max start 2 + i = rootId :=
      eq_of_toString_eq ((hnumbered i row hi).id.symm.trans hroot)
    have htwo : 2 ≤ max start 2 := Nat.le_max_right _ _
    unfold rootId at hid
    omega
  case next => exact hnext

/-- The rows of the relations of a base table, in full. -/
theorem compileRelations_groups (relationships : List Relationship) (base : String) (start : Nat)
    (room : max start 2 + (compileRelations relationships base start).1.length < 2 ^ 32) :
    IsRelationPart relationships base start (compileRelations relationships base start).1
        (compileRelations relationships base start).2 ∧
      (∀ front added back, relationships = front ++ back →
        (added.touches base = false ∨ ∃ earlier ∈ front, earlier.touches base = true ∧
          earlier.other base = added.other base) →
        compileRelations (front ++ added :: back) base start
          = compileRelations relationships base start) ∧
      ∀ added, ∃ rows, (compileRelations (relationships ++ [added]) base start).1
        = (compileRelations relationships base start).1 ++ rows := by
  refine ⟨isRelationPart_compileRelations relationships base start room, ?_,
    fun added => exists_compileRelations_append relationships [added] base start⟩
  rintro front added back rfl h
  exact compileRelations_congr (relatedTables_insert h back) start

/-- Relations with the entities from either side, one of the base with itself, and one of two other
tables; the numbers begin below that of the root. -/
theorem compileRelations_groups_entities :
    let relationships : List Relationship :=
      [⟨"creator", "ca_entities", "ca_objects", "", ""⟩, ⟨"part", "ca_objects", "ca_objects", "", ""⟩,
        ⟨"stay", "ca_loans", "ca_places", "", ""⟩, ⟨"owner", "ca_objects", "ca_entities", "", ""⟩]
    let part := compileRelations relationships "ca_objects" 0
    max 0 2 + part.1.length < 2 ^ 32 ∧
      IsRelationPart relationships "ca_objects" 0 part.1 part.2 ∧ part.2 = 13 ∧
      part.1.map (·.parent) = ["1", "2", "3", "3", "3", "3", "1", "8", "9", "9", "9"] :=
  ⟨by decide, (compileRelations_groups _ _ _ (by decide)).1, by decide, by decide⟩

end CollectionProfile.Mapping
