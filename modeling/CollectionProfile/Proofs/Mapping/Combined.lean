import CollectionProfile.Mapping.Combined
import CollectionProfile.Proofs.Mapping.Single
import Mathlib.Algebra.GroupWithZero.Nat

/-!
# The layout of the mapping of all tables

One numbering runs through the containers and fields of all tables, so the number of every row
hangs on the sizes of all tables before it. `tableRows_draws` is the step, one table;
`tablesRows_draws` is the run of it. `combine_layout` puts the root in front. The tables come in
the order of the keys they are stored under, which is that of their names where each is stored
under its own name (`KeyedTables.OwnNames`).
-/

namespace CollectionProfile.Mapping

/-- The cells of the container row of a table, which stands right under the root. -/
def containerCells (table : Table) (id : Nat) : Row where
  rule := .mapping
  id := toString id
  parent := "1"
  element := table.name
  source := ""
  options := ""
  notes := "Table " ++ table.name
  originalValues := ""
  replacementValues := ""

/-- The rows of one table: its container under the root, and right after it the table's fields in
their order, named by their codes, numbered on from the container and under it. -/
def IsTableBlock (table : Table) (block : List Row) : Prop :=
  ∃ id : Nat, block = containerCells table id
    :: table.fields.mapIdx fun i field => fieldCells table.name .technical id field (id + 1 + i)

/-- How the sheet of all tables is laid out. Below the root stand the blocks of the tables in the
order of their keys and nothing else, so that the rows right under the root are the containers. -/
structure IsCombinedSheet (tables : KeyedTables) (sheet : Sheet) : Prop where
  tree : IsTree sheet.mappingRows
  blocks : ∃ blocks, sheet.mappingRows.tail = blocks.flatten ∧
    List.Forall₂ (fun entry => IsTableBlock entry.2) tables.entries blocks
  containers : (sheet.mappingRows.filter (·.parent = "1")).map (·.element)
    = tables.entries.map (·.2.name)
  ascending : tables.OwnNames →
    ((sheet.mappingRows.filter (·.parent = "1")).map (·.element)).Pairwise (· < ·)
  noRelations : sheet.relationRows = 0
  fieldRows : sheet.fieldRows = (tables.entries.map (·.2.fields.length)).sum
  count : sheet.mappingRows.length = 1 + tables.entries.length + sheet.fieldRows

/-! ### One table -/

theorem length_tableRows (table : Table) (numbering : Numbering) :
    (tableRows table numbering).1.length = 1 + table.fields.length := by
  simp only [tableRows, List.length_cons, List.length_map, Numbering.length_assign]
  omega

/-- The container takes the number that comes next, and the fields those right after it. -/
theorem tableRows_eq (table : Table) {next : Nat}
    (room : next + (1 + table.fields.length) < numberCount) :
    tableRows table ⟨next⟩
      = (containerCells table next :: table.fields.mapIdx fun i field =>
          fieldCells table.name .technical next field (next + 1 + i),
        ⟨next + (1 + table.fields.length)⟩) := by
  have htake : (Numbering.mk next).take.2 = ⟨next + 1⟩ :=
    Numbering.take_snd (show next + 1 < numberCount by omega)
  have hassign : Numbering.assign ⟨next + 1⟩ table.fields
      = (table.fields.zipIdx (next + 1), ⟨next + 1 + table.fields.length⟩) :=
    Numbering.assign_eq (show next + 1 + table.fields.length < numberCount by omega)
  simp only [tableRows, Numbering.take_fst, htake, hassign, Prod.mk.injEq, Numbering.mk.injEq]
  refine ⟨?_, by omega⟩
  have hcontainer : Row.numbered next (some rootId) table.name "" "" ("Table " ++ table.name)
      = containerCells table next := rfl
  rw [hcontainer]
  congr 1
  refine List.ext_getElem (by simp) fun i h₁ h₂ => ?_
  simp [fieldRow_eq_cells]

theorem tableRows_draws (table : Table) {numbering : Numbering} (hroot : rootId < numbering.next)
    (room : numbering.next + (1 + table.fields.length) < numberCount) :
    Draws numbering (tableRows table numbering) := by
  constructor
  · rw [tableRows_eq table room]
    have hcontainer : (containerCells table numbering.next).StandsAt numbering.next :=
      ⟨rfl, rfl, 1, Nat.le_refl 1, hroot, rfl⟩
    exact .cons hcontainer
      (numberedFrom_fields table.name (Nat.le_of_lt hroot) (Nat.lt_succ_self _) .technical)
  · rw [length_tableRows, tableRows_eq table room]

theorem isTableBlock_tableRows (table : Table) {numbering : Numbering}
    (room : numbering.next + (1 + table.fields.length) < numberCount) :
    IsTableBlock table (tableRows table numbering).1 :=
  ⟨numbering.next, by rw [tableRows_eq table room]⟩

/-- Of the rows of a table only the container stands right under the root. -/
theorem filter_tableRows (table : Table) {numbering : Numbering}
    (hroot : rootId < numbering.next)
    (room : numbering.next + (1 + table.fields.length) < numberCount) :
    ((tableRows table numbering).1.filter (·.parent = "1")).map (·.element) = [table.name] := by
  rw [tableRows_eq table room, List.filter_cons_of_pos (by simp [containerCells])]
  have hfields : ∀ row ∈ table.fields.mapIdx fun i field =>
      fieldCells table.name .technical numbering.next field (numbering.next + 1 + i),
      row.parent ≠ "1" := by
    intro row hmem hparent
    obtain ⟨i, hi, rfl⟩ := List.mem_mapIdx.1 hmem
    have hid : numbering.next = 1 := eq_of_toString_eq hparent
    exact Nat.ne_of_gt hroot hid
  rw [List.filter_eq_nil_iff.2 (by simpa using hfields)]
  rfl

/-! ### All tables -/

/-- What a run over several tables draws from a numbering: one block for each table, in order. -/
structure DrawsTables (tables : List Table) (numbering : Numbering) (result : List Row × Numbering) :
    Prop extends Draws numbering result where
  blocks : ∃ blocks, result.1 = blocks.flatten ∧ List.Forall₂ IsTableBlock tables blocks
  containers : (result.1.filter (·.parent = "1")).map (·.element) = tables.map (·.name)

theorem length_tablesRows (tables : List Table) (numbering : Numbering) :
    (tablesRows tables numbering).1.length
      = tables.length + (tables.flatMap (·.fields)).length := by
  induction tables generalizing numbering with
  | nil => rfl
  | cons table rest ih =>
    simp only [tablesRows, List.length_append, length_tableRows, ih, List.length_cons,
      List.flatMap_cons]
    omega

theorem rule_tablesRows (tables : List Table) (numbering : Numbering) :
    ∀ row ∈ (tablesRows tables numbering).1, row.rule = .mapping := by
  induction tables generalizing numbering with
  | nil => simp [tablesRows]
  | cons table rest ih =>
    intro row hmem
    simp only [tablesRows, List.mem_append, tableRows, List.mem_cons, List.mem_map] at hmem
    rcases hmem with (rfl | ⟨field, -, rfl⟩) | hmem
    · rfl
    · rfl
    · exact ih _ row hmem

theorem tablesRows_draws (tables : List Table) {numbering : Numbering}
    (hroot : rootId < numbering.next)
    (room : numbering.next + (tablesRows tables numbering).1.length < numberCount) :
    DrawsTables tables numbering (tablesRows tables numbering) := by
  -- The numbering that one table leaves behind is the one the rest begins with.
  induction tables generalizing numbering with
  | nil => exact ⟨⟨.nil _, rfl⟩, ⟨[], rfl, .nil⟩, rfl⟩
  | cons table rest ih =>
    simp only [tablesRows, List.length_append, length_tableRows] at room ⊢
    have htable : numbering.next + (1 + table.fields.length) < numberCount := by omega
    have hfirst := tableRows_draws table hroot htable
    have hrest : DrawsTables rest (tableRows table numbering).2
        (tablesRows rest (tableRows table numbering).2) := by
      apply ih
      · rw [hfirst.next]
        exact Nat.lt_add_right _ hroot
      · rw [hfirst.next, length_tableRows] at room ⊢
        show numbering.next + (1 + table.fields.length) + _ < numberCount
        omega
    obtain ⟨blocks, hflatten, hblocks⟩ := hrest.blocks
    refine ⟨hfirst.append hrest.toDraws, ⟨(tableRows table numbering).1 :: blocks, ?_, ?_⟩, ?_⟩
    · rw [hflatten, List.flatten_cons]
    · exact .cons (isTableBlock_tableRows table htable) hblocks
    · rw [List.filter_append, List.map_append, filter_tableRows table hroot htable,
        hrest.containers]
      rfl

/-! ### The sheet -/

/-- The rules in the mapping of all tables. -/
def combinedRules (tables : KeyedTables) : List Row :=
  .root "Root element for XML export" :: (tablesRows tables.values .afterRoot).1

theorem rule_combinedRules (tables : KeyedTables) :
    ∀ row ∈ combinedRules tables, row.rule = .mapping := by
  intro row hmem
  rcases List.mem_cons.1 hmem with rfl | hmem
  · rfl
  · exact rule_tablesRows _ _ row hmem

theorem rows_combine (tables : KeyedTables) (convention : Convention) :
    (combine tables convention).rows
      = combinedRules tables ++ (separators ++ combinedSettings convention) :=
  List.append_assoc _ _ _

theorem mappingRows_combine (tables : KeyedTables) (convention : Convention) :
    (combine tables convention).mappingRows = combinedRules tables := by
  rw [Sheet.mappingRows, rows_combine]
  exact filter_rules (rule_combinedRules tables) _ (by
    simp [combinedSettings, settingsBlock, Row.settingsHeader, Row.setting])

theorem length_combinedRules (tables : KeyedTables) :
    (combinedRules tables).length = 1 + tables.entries.length + tables.fieldCount := by
  have hentries : tables.values.length = tables.entries.length := List.length_map _
  rw [combinedRules, List.length_cons, length_tablesRows, hentries, KeyedTables.fieldCount]
  omega

theorem combinedRules_draws {tables : KeyedTables}
    (room : tables.entries.length + tables.fieldCount + 2 < numberCount) :
    DrawsTables tables.values .afterRoot (tablesRows tables.values .afterRoot) := by
  have hlength := length_combinedRules tables
  rw [combinedRules, List.length_cons] at hlength
  refine tablesRows_draws tables.values (Nat.lt_succ_self rootId) ?_
  show 2 + _ < _
  omega

/-- Right under the root stand the containers. -/
theorem containers_combinedRules {tables : KeyedTables}
    (room : tables.entries.length + tables.fieldCount + 2 < numberCount) :
    ((combinedRules tables).filter (·.parent = "1")).map (·.element)
      = tables.entries.map (·.2.name) := by
  have hnames : tables.values.map (·.name) = tables.entries.map (·.2.name) := List.map_map
  rw [combinedRules, List.filter_cons_of_neg (by decide), ← hnames]
  exact (combinedRules_draws room).containers

/-- The mapping of all tables is a tree of rules, one block for each table in the order of their
keys, and the same for every convention. -/
theorem combine_layout (tables : KeyedTables) (convention : Convention)
    (room : tables.entries.length + tables.fieldCount < 2 ^ 32 - 2) :
    IsCombinedSheet tables (combine tables convention) ∧
      ∀ other, (combine tables other).mappingRows = (combine tables convention).mappingRows := by
  have hroom : tables.entries.length + tables.fieldCount + 2 < numberCount := by
    unfold numberCount
    omega
  have hdraws := combinedRules_draws hroom
  have hcontainers := containers_combinedRules hroom
  refine ⟨?_, fun other => by rw [mappingRows_combine, mappingRows_combine]⟩
  constructor
  case tree =>
    rw [mappingRows_combine]
    exact IsTree.cons_root _ hdraws.rows
  case blocks =>
    rw [mappingRows_combine]
    obtain ⟨blocks, hflatten, hblocks⟩ := hdraws.blocks
    exact ⟨blocks, hflatten, List.forall₂_map_left_iff.1 hblocks⟩
  case containers =>
    rw [mappingRows_combine]
    exact hcontainers
  case ascending =>
    intro hown
    rw [mappingRows_combine, hcontainers]
    exact hown.ascending
  case noRelations => rfl
  case fieldRows =>
    show tables.fieldCount = _
    rw [KeyedTables.fieldCount, List.length_flatMap, KeyedTables.values, List.map_map]
    rfl
  case count =>
    rw [mappingRows_combine]
    exact length_combinedRules tables

/-- A table without fields between two others, one of them with a field of the same code as the
other's. -/
theorem combine_layout_empty :
    let tables : Tables := ⟨[⟨"ca_loans", [⟨"idno", "Text", "N°", ""⟩]⟩, ⟨"ca_objects", []⟩,
      ⟨"ca_places", [⟨"idno", "Text", "", "d"⟩, ⟨"x", "", "", ""⟩]⟩], by decide⟩
    let sheet := combine tables.keyed .readable
    tables.keyed.entries.length + tables.keyed.fieldCount < 2 ^ 32 - 2 ∧
      IsCombinedSheet tables.keyed sheet ∧ tables.keyed.OwnNames ∧
      sheet.mappingRows.map (·.parent) = ["", "1", "2", "1", "1", "5", "5"] :=
  ⟨by decide, (combine_layout _ _ (by decide)).1, Tables.ownNames_keyed _, by decide⟩

/-- Tables under keys that are not their names come in the order of the keys. -/
example :
    let tables : KeyedTables := ⟨[("a", ⟨"z", []⟩), ("b", ⟨"y", []⟩)], by decide⟩
    ¬ tables.OwnNames ∧
      (combine tables .technical).mappingRows.map (·.element) = ["record", "z", "y"] := by
  decide

end CollectionProfile.Mapping
