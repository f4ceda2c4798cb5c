import CollectionProfile.Mapping.Single
import CollectionProfile.Proofs.Mapping.Groups
import Mathlib.Algebra.Group.Nat.Defs

/-!
# The layout of the mapping of one table

The numbers of the field rows and those of the relation rows come from two numberings, the second
begun anew where the first stands. `compileFields_layout` says that they still make one tree, for
any fields and relations that leave the count of rows below the limit of numbers. What stands in the
row of a field is written out in `fieldCells`.
-/

namespace CollectionProfile.Mapping

/-- The cells of the row that a field of `table` has under the row numbered `parent`: the element
named by code or label, the path of the field, and its label with the description behind a dash
where there is one. -/
def fieldCells (table : String) (convention : Convention) (parent : Nat) (field : Field)
    (id : Nat) : Row where
  rule := .mapping
  id := toString id
  parent := toString parent
  element := match convention with
    | .technical => field.code
    | .readable => field.label
  source := table ++ "." ++ field.code
  options := ""
  notes :=
    if field.description = "" then field.label else field.label ++ " - " ++ field.description
  originalValues := ""
  replacementValues := ""

/-- How the sheet of one table is laid out: a tree of rules, and after it three empty rows, the
heading of the settings and four settings. Below the root stand the rows of the fields, in order,
and then the rows of the relations where they are wanted. -/
structure IsTableSheet (table : String) (fields : List Field) (relationships : List Relationship)
    (options : Options) (sheet : Sheet) : Prop where
  parts : ∃ settings : List Row, settings.length = 4 ∧ (∀ row ∈ settings, row.rule = .setting) ∧
    sheet.rows = sheet.mappingRows
      ++ (List.replicate 3 ⟨.blank, "", "", "", "", "", "", "", ""⟩
        ++ ⟨.blank, "Setting", "Setting Value", "Description", "Notes", "", "", "", ""⟩ :: settings)
  tree : IsTree sheet.mappingRows
  fieldPart : (sheet.mappingRows.drop 1).take fields.length
    = fields.mapIdx fun i field => fieldCells table options.convention 1 field (2 + i)
  relationPart : options.relations = true → ∃ next,
    IsRelationPart relationships table (fields.length + 2)
      (sheet.mappingRows.drop (1 + fields.length)) next
  count : sheet.mappingRows.length = 1 + sheet.fieldRows + sheet.relationRows
  fieldRows : sheet.fieldRows = fields.length
  noRelations : options.relations = false →
    sheet.mappingRows.drop (1 + fields.length) = [] ∧ sheet.relationRows = 0

theorem fieldRow_eq_cells (table : String) (convention : Convention) (parent : Nat) (field : Field)
    (id : Nat) :
    fieldRow table convention parent field id = fieldCells table convention parent field id := by
  cases convention <;> rfl

theorem standsAt_fieldCells {id parent : Nat} (table : String) (convention : Convention)
    (field : Field) (hpos : 1 ≤ parent) (hlt : parent < id) :
    (fieldCells table convention parent field id).StandsAt id :=
  ⟨rfl, rfl, parent, hpos, hlt, rfl⟩

/-- Settings behind a run of rules and the separators leave the rules as they are. -/
theorem filter_rules {rules : List Row} (hrules : ∀ row ∈ rules, row.rule = .mapping)
    (settings : List Row) (hsettings : ∀ row ∈ settings, ¬ row.rule = .mapping) :
    (rules ++ (separators ++ settings)).filter (·.rule = .mapping) = rules := by
  have hseparators : ∀ row ∈ separators, ¬ row.rule = .mapping := by
    simp [separators, Row.separator]
  have htail : ∀ row ∈ separators ++ settings, ¬ row.rule = .mapping := by
    intro row hmem
    rcases List.mem_append.1 hmem with hmem | hmem
    · exact hseparators row hmem
    · exact hsettings row hmem
  rw [List.filter_append, List.filter_eq_self.2 (by simpa using hrules),
    List.filter_eq_nil_iff.2 (by simpa using htail), List.append_nil]

theorem rule_groupsRows (base : String) (others : List String) (numbering : Numbering) :
    ∀ row ∈ (groupsRows base others numbering).1, row.rule = .mapping := by
  induction others generalizing numbering with
  | nil => simp [groupsRows]
  | cons other rest ih =>
    intro row hmem
    simp only [groupsRows, List.mem_append] at hmem
    rcases hmem with hmem | hmem
    · simp only [groupRows, List.mem_cons, List.mem_map] at hmem
      rcases hmem with rfl | rfl | ⟨field, -, rfl⟩ <;> rfl
    · exact ih _ row hmem

section Rules

variable (table : String) (fields : List Field) (relationships : List Relationship)
  (options : Options)

/-- The rows of the relations in the mapping of a table, none where they are not wanted. -/
def relationsOf : List Row :=
  if options.relations then
    (compileRelations relationships table (Numbering.afterRoot.assign fields).2.next).1
  else []

/-- The rules in the mapping of a table. -/
def rulesOf : List Row :=
  .root "Root element for export"
    :: ((Numbering.afterRoot.assign fields).1.map fun (field, id) =>
        fieldRow table options.convention rootId field id)
    ++ relationsOf table fields relationships options

theorem rows_compileFields :
    (compileFields table fields relationships options).rows
      = rulesOf table fields relationships options
        ++ (separators ++ tableSettings table options) := by
  simp [compileFields, rulesOf, relationsOf]

theorem length_rulesOf : (rulesOf table fields relationships options).length
    = 1 + fields.length + (relationsOf table fields relationships options).length := by
  simp only [rulesOf, List.length_append, List.length_cons, List.length_map,
    Numbering.length_assign]
  omega

theorem rule_rulesOf : ∀ row ∈ rulesOf table fields relationships options, row.rule = .mapping := by
  intro row hmem
  simp only [rulesOf, List.cons_append, List.mem_cons, List.mem_append, List.mem_map] at hmem
  rcases hmem with rfl | ⟨field, -, rfl⟩ | hmem
  · rfl
  · rfl
  · unfold relationsOf at hmem
    split at hmem
    · exact rule_groupsRows _ _ _ row hmem
    · simp at hmem

theorem mappingRows_compileFields :
    (compileFields table fields relationships options).mappingRows
      = rulesOf table fields relationships options := by
  have hsettings : ∀ row ∈ tableSettings table options, ¬ row.rule = .mapping := by
    simp [tableSettings, settingsBlock, Row.settingsHeader, Row.setting]
  rw [Sheet.mappingRows, rows_compileFields]
  exact filter_rules (rule_rulesOf table fields relationships options) _ hsettings

theorem relationRows_compileFields :
    (compileFields table fields relationships options).relationRows
      = (relationsOf table fields relationships options).length := rfl

variable {fields}

theorem assign_afterRoot (room : fields.length + 2 < numberCount) :
    Numbering.afterRoot.assign fields = (fields.zipIdx 2, ⟨fields.length + 2⟩) := by
  have h := Numbering.assign_eq (show Numbering.afterRoot.next + fields.length < numberCount by
    rw [Nat.add_comm]
    exact room)
  rwa [Nat.add_comm Numbering.afterRoot.next] at h

theorem relationsOf_eq (room : fields.length + 2 < numberCount) :
    relationsOf table fields relationships options
      = if options.relations then (compileRelations relationships table (fields.length + 2)).1
        else [] := by
  rw [relationsOf, assign_afterRoot room]

/-- The run below the root: the fields take the numbers from two on, the relations go on from
there. -/
theorem rulesOf_eq (room : fields.length + 2 < numberCount) :
    rulesOf table fields relationships options
      = .root "Root element for export"
        :: ((fields.mapIdx fun i field => fieldCells table options.convention 1 field (2 + i))
          ++ relationsOf table fields relationships options) := by
  rw [rulesOf, assign_afterRoot room, List.cons_append]
  congr 2
  refine List.ext_getElem (by simp) fun i h₁ h₂ => ?_
  simp [fieldRow_eq_cells, rootId]

theorem numberedFrom_fields {start parent : Nat} (hpos : 1 ≤ parent) (hstart : parent < start)
    (convention : Convention) :
    NumberedFrom start
      (fields.mapIdx fun i field => fieldCells table convention parent field (start + i)) := by
  intro i row h
  rw [List.getElem?_mapIdx, Option.map_eq_some_iff] at h
  obtain ⟨field, -, rfl⟩ := h
  exact standsAt_fieldCells table convention field hpos (by omega)

theorem numberedFrom_relationsOf
    (room : fields.length + 2 + (relationsOf table fields relationships options).length
      < numberCount) :
    NumberedFrom (fields.length + 2) (relationsOf table fields relationships options) := by
  rw [relationsOf_eq table relationships options (by omega)] at room ⊢
  split
  · next hrelations =>
    -- The second numbering begins where the first stands, which is past the root.
    have hmax : max (fields.length + 2) 2 = fields.length + 2 := Nat.max_eq_left (by omega)
    have h := compileRelations_numbered relationships table (fields.length + 2)
    rw [hmax] at h
    exact (h (by simpa [hrelations] using room)).1
  · exact .nil _

theorem isTree_rulesOf
    (room : fields.length + 2 + (relationsOf table fields relationships options).length
      < numberCount) :
    IsTree (rulesOf table fields relationships options) := by
  rw [rulesOf_eq table relationships options (by omega)]
  refine IsTree.cons_root _ (.append
    (numberedFrom_fields table (Nat.le_refl 1) Nat.one_lt_two _) ?_)
  rw [List.length_mapIdx, Nat.add_comm]
  exact numberedFrom_relationsOf table relationships options room

/-- Past the root and the fields stand the relations. -/
theorem drop_rulesOf (room : fields.length + 2 < numberCount) :
    (rulesOf table fields relationships options).drop (1 + fields.length)
      = relationsOf table fields relationships options := by
  rw [rulesOf_eq table relationships options room, Nat.add_comm, List.drop_succ_cons]
  exact List.drop_left' (by rw [List.length_mapIdx])

end Rules

/-- The mapping of a table is a tree of rules in the order root, fields, relations, followed by the
settings. -/
theorem compileFields_layout (table : String) (fields : List Field)
    (relationships : List Relationship) (options : Options)
    (room : (compileFields table fields relationships options).mappingRows.length < 2 ^ 32 - 1) :
    IsTableSheet table fields relationships options
      (compileFields table fields relationships options) := by
  have hlength := length_rulesOf table fields relationships options
  rw [mappingRows_compileFields] at room
  have hlimit : fields.length + 2 + (relationsOf table fields relationships options).length
      < numberCount := by
    rw [hlength] at room
    unfold numberCount
    omega
  have hfields : fields.length + 2 < numberCount := by omega
  have hrelations : (compileFields table fields relationships options).mappingRows.drop
      (1 + fields.length) = relationsOf table fields relationships options := by
    rw [mappingRows_compileFields]
    exact drop_rulesOf table relationships options hfields
  constructor
  case parts =>
    refine ⟨(tableSettings table options).tail, rfl, ?_, ?_⟩
    · simp [tableSettings, settingsBlock, Row.setting]
    · rw [rows_compileFields, mappingRows_compileFields]
      rfl
  case tree =>
    rw [mappingRows_compileFields]
    exact isTree_rulesOf table relationships options hlimit
  case fieldPart =>
    rw [mappingRows_compileFields, rulesOf_eq table relationships options hfields, List.drop_one,
      List.tail_cons]
    exact List.take_left' (by rw [List.length_mapIdx])
  case relationPart =>
    intro hon
    have hwanted := relationsOf_eq table relationships options hfields
    rw [if_pos hon] at hwanted
    rw [hwanted] at hlimit
    rw [hrelations, hwanted]
    refine ⟨_, isRelationPart_compileRelations relationships table (fields.length + 2) ?_⟩
    rwa [Nat.max_eq_left (by omega)]
  case count =>
    rw [mappingRows_compileFields, relationRows_compileFields, hlength]
    rfl
  case fieldRows => rfl
  case noRelations =>
    intro hoff
    rw [hrelations, relationRows_compileFields, relationsOf, hoff]
    exact ⟨rfl, rfl⟩

/-- Two fields of one code, a relation with the entities and one of the table with itself. -/
theorem compileFields_layout_objects :
    let fields : List Field := [.declare "title" "Text" "Titre" "", .declare "title" "Text" "" ""]
    let relationships : List Relationship :=
      [⟨"creator", "ca_entities", "ca_objects", "créateur", "a créé"⟩,
        ⟨"part", "ca_objects", "ca_objects", "partie", "ensemble"⟩]
    let sheet := compileFields "ca_objects" fields relationships {}
    sheet.mappingRows.length < 2 ^ 32 - 1 ∧ sheet.relationRows = 11 ∧
      IsTableSheet "ca_objects" fields relationships {} sheet := by
  refine ⟨by decide, by decide, compileFields_layout _ _ _ _ (by decide)⟩

end CollectionProfile.Mapping
