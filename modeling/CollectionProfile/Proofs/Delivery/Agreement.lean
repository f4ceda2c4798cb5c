import CollectionProfile.Delivery.SchemaDocument
import CollectionProfile.Profile.Assembly
import CollectionProfile.Proofs.Mapping.Combined
import CollectionProfile.Proofs.Schema.Tables

/-!
# The outputs of a schema agree

A table is told four times: by its own mapping, by its part of the mapping of all tables, by its own
schema document and by its part of the combined one. `outputs_agree` says that these tell the same
fields in the same order. The rows of the two mappings differ in their numbers, since the combined
mapping counts on from the tables before; nothing else of a row hangs on where it stands.
-/

namespace CollectionProfile

open Markup (Block)

namespace Mapping

/-- The row without its own number and that of its parent. -/
def Row.unplaced (row : Row) : Row := { row with id := "", parent := "" }

/-- The rows of the fields in the mapping of one table. They stand right after the root. -/
def Sheet.fieldPart (sheet : Sheet) : List Row := (sheet.mappingRows.drop 1).take sheet.fieldRows

/-- The row opens the part of a table in the mapping of all tables. Only containers lack a source. -/
def Row.opens (table : String) (row : Row) : Bool := row.source = "" && row.element = table

/-- The rows that follow the container of a table, up to the next container. -/
def Sheet.tablePart (sheet : Sheet) (table : String) : List Row :=
  (((sheet.mappingRows.drop 1).dropWhile fun row => !row.opens table).drop 1).takeWhile fun row =>
    row.source ≠ ""

end Mapping

/-- The blocks right inside a block that have the name. -/
def Markup.Block.named (block : Block) (name : String) : List Block :=
  block.children.filter (·.name = name)

/-- The sources that a schema document shows, field after field. -/
def SchemaDocument.sources (document : Block) : List (Option String) :=
  ((document.named "fields").flatMap (·.named "field")).flatMap fun field =>
    (field.named "source").map (·.text)

namespace Mapping

/-! ### Rows apart from their places -/

theorem map_fst_assign {α : Type} (numbering : Numbering) (items : List α) :
    (numbering.assign items).1.map (·.1) = items := by
  induction items generalizing numbering with
  | nil => rfl
  | cons item rest ih =>
    show item :: (numbering.take.2.assign rest).1.map (·.1) = item :: rest
    rw [ih]

theorem source_fieldRow_ne_empty (table : String) (convention : Convention) (parent : Nat)
    (field : Field) (id : Nat) : (fieldRow table convention parent field id).source ≠ "" := by
  show table ++ "." ++ field.code ≠ ""
  simp

/-- Without their places the rows of numbered fields do not tell how they were numbered. -/
theorem unplaced_fieldRows (table : String) (convention : Convention) (parent : Nat)
    (numbering : Numbering) (fields : List Field) :
    ((numbering.assign fields).1.map fun (field, id) =>
        fieldRow table convention parent field id).map (·.unplaced)
      = fields.map fun field => (fieldRow table convention 0 field 0).unplaced := by
  conv_rhs => rw [← map_fst_assign numbering fields]
  rw [List.map_map, List.map_map]
  rfl

/-! ### The mapping of one table -/

theorem fieldPart_compileFields (table : String) (fields : List Field)
    (relationships : List Relationship) (options : Options) :
    (compileFields table fields relationships options).fieldPart
      = (Numbering.afterRoot.assign fields).1.map fun (field, id) =>
          fieldRow table options.convention rootId field id := by
  rw [Sheet.fieldPart, mappingRows_compileFields, rulesOf, List.cons_append, List.drop_one,
    List.tail_cons]
  apply List.take_left'
  rw [List.length_map, Numbering.length_assign]
  rfl

/-! ### The mapping of all tables -/

/-- Behind its container a table has its fields' rows, and then a container comes or nothing. -/
theorem takeWhile_fieldRows (table : String) (convention : Convention) (parent : Nat)
    (numbered : List (Field × Nat)) (tables : List Table) (numbering : Numbering) :
    ((numbered.map fun (field, id) => fieldRow table convention parent field id)
        ++ (tablesRows tables numbering).1).takeWhile (fun row => row.source ≠ "")
      = numbered.map fun (field, id) => fieldRow table convention parent field id := by
  rw [List.takeWhile_append_of_pos]
  · cases tables with
    | nil => exact List.append_nil _
    | cons next rest => exact List.append_nil _
  · intro row hmem
    obtain ⟨⟨field, id⟩, -, rfl⟩ := List.mem_map.1 hmem
    simpa using source_fieldRow_ne_empty table convention parent field id

theorem unplaced_part_tablesRows {table : Table} {tables : List Table} (hmem : table ∈ tables)
    (hnodup : (tables.map (·.name)).Nodup) (numbering : Numbering) :
    (((((tablesRows tables numbering).1.dropWhile fun row => !row.opens table.name).drop 1).takeWhile
        fun row => row.source ≠ "").map (·.unplaced))
      = table.fields.map fun field => (fieldRow table.name .technical 0 field 0).unplaced := by
  induction tables generalizing numbering with
  | nil => cases hmem
  | cons head rest ih =>
    obtain ⟨hfresh, hrest⟩ := List.nodup_cons.1 hnodup
    simp only [tablesRows, tableRows, List.cons_append]
    rcases List.mem_cons.1 hmem with rfl | hmem
    · rw [List.dropWhile_cons_of_neg (by simp [Row.opens, Row.numbered]), List.drop_one,
        List.tail_cons, takeWhile_fieldRows, unplaced_fieldRows]
    · have hne : head.name ≠ table.name := by
        intro heq
        exact hfresh (List.mem_map.2 ⟨table, hmem, heq.symm⟩)
      rw [List.dropWhile_cons_of_pos (by simp [Row.opens, Row.numbered, hne]),
        List.dropWhile_append_of_pos]
      · exact ih hmem hrest _
      · intro row hrow
        obtain ⟨⟨field, id⟩, -, rfl⟩ := List.mem_map.1 hrow
        simp [Row.opens, source_fieldRow_ne_empty]

theorem unplaced_tablePart_compileCombined {schema : Schema} {table : Table}
    (hmem : table ∈ schema.tables.toList) (convention : Convention) :
    ((compileCombined schema convention).tablePart table.name).map (·.unplaced)
      = table.fields.map fun field => (fieldRow table.name .technical 0 field 0).unplaced := by
  rw [Sheet.tablePart, compileCombined, mappingRows_combine, combinedRules, Tables.values_keyed]
  exact unplaced_part_tablesRows hmem schema.tables.nodup_names _

end Mapping

/-! ### Schema documents -/

theorem SchemaDocument.named_fieldBlock (table : String) (field : Field) :
    ((fieldBlock table field).named "source").map (·.text) = [some (field.source table)] := by
  by_cases hempty : field.description = "" <;>
    simp [Block.named, fieldBlock, Block.ofText, hempty]

theorem SchemaDocument.sources_tableBlock (table : String) (fields : List Field) :
    sources (tableBlock table fields) = fields.map fun field => some (field.source table) := by
  have hfields : ((tableBlock table fields).named "fields").flatMap (·.named "field")
      = fields.map (fieldBlock table) := by
    show (List.filter _ (fields.map (fieldBlock table))) ++ [] = _
    rw [List.append_nil, List.filter_eq_self]
    intro block hmem
    obtain ⟨field, -, rfl⟩ := List.mem_map.1 hmem
    rfl
  rw [sources, hfields, List.flatMap_map]
  simp only [named_fieldBlock]
  exact List.map_eq_flatMap.symm

theorem SchemaDocument.ofTable_of_mem {schema : Schema} {table : Table}
    (hmem : table ∈ schema.tables.toList) :
    ofTable schema table.name = .ok (tableBlock table.name table.fields) := by
  rw [ofTable, Schema.table?, Tables.find?_eq_some_iff.2 ⟨hmem, rfl⟩]

theorem mapM_ok_of_forall {ε α β : Type} {f : α → Except ε β} {g : α → β} {items : List α}
    (h : ∀ item ∈ items, f item = .ok (g item)) : items.mapM f = .ok (items.map g) := by
  induction items with
  | nil => rfl
  | cons item rest ih =>
    rw [List.forall_mem_cons] at h
    rw [List.mapM_cons, h.1, ih h.2]
    rfl

/-- The combined document holds the documents of the single tables. -/
theorem SchemaDocument.children_combined (schema : Schema) :
    schema.tables.names.mapM (ofTable schema) = .ok (combined schema).children := by
  rw [Tables.names, List.mapM_map]
  exact mapM_ok_of_forall fun table hmem => ofTable_of_mem hmem

/-! ### All outputs -/

/-- What the outputs of a schema tell of one of its tables. -/
structure OutputsAgree (schema : Schema) (table : Table) (single : Mapping.Options → Mapping.Sheet)
    (document : Block) : Prop where
  compiled : ∀ options, Mapping.compileTable schema table.name options = .ok (single options)
  documented : SchemaDocument.ofTable schema table.name = .ok document
  rows : ∀ relations convention,
    (single ⟨.technical, relations⟩).fieldPart.map (·.unplaced)
      = ((Mapping.compileCombined schema convention).tablePart table.name).map (·.unplaced)
  /-- The sources are the same whatever the options, and the same as in the document. -/
  sources : ∀ options,
    (single options).fieldPart.map (some ·.source) = SchemaDocument.sources document
  fields : SchemaDocument.sources document
    = table.fields.map fun field => some (table.name ++ "." ++ field.code)

/-- Every table of a schema is told alike by all outputs, and the combined document consists of the
documents of the tables in ascending order of their names. -/
theorem outputs_agree (schema : Schema) :
    (∀ table ∈ schema.tables.toList, ∃ single document,
      OutputsAgree schema table single document) ∧
    schema.tables.names.mapM (SchemaDocument.ofTable schema)
      = .ok (SchemaDocument.combined schema).children ∧
    schema.tables.names.Pairwise (· < ·) := by
  refine ⟨?_, SchemaDocument.children_combined schema, List.pairwise_map.2 schema.tables.ascending⟩
  intro table hmem
  refine ⟨Mapping.compileFields table.name table.fields schema.relationships,
    SchemaDocument.tableBlock table.name table.fields, ?_⟩
  constructor
  case compiled =>
    intro options
    rw [Mapping.compileTable, Schema.table?, Tables.find?_eq_some_iff.2 ⟨hmem, rfl⟩]
  case documented => exact SchemaDocument.ofTable_of_mem hmem
  case rows =>
    intro relations convention
    rw [Mapping.fieldPart_compileFields, Mapping.unplaced_fieldRows,
      Mapping.unplaced_tablePart_compileCombined hmem]
  case sources =>
    intro options
    rw [Mapping.fieldPart_compileFields, SchemaDocument.sources_tableBlock]
    conv_rhs => rw [← Mapping.map_fst_assign Mapping.Numbering.afterRoot table.fields]
    rw [List.map_map, List.map_map]
    rfl
  case fields => exact SchemaDocument.sources_tableBlock table.name table.fields

/-- A field has the code that is the name of another table, and one of its tables comes after
another. -/
theorem outputs_agree_assembled :
    let schema := Schema.assemble
      [⟨.elementSet, [⟨"b", [.declare "a" "Text" "" "", .declare "c" "" "C" "d"]⟩, ⟨"a", []⟩]⟩]
      [⟨"r", "a", "b", "", ""⟩] {}
    let table : Table := ⟨"b", [⟨"a", "Text", "a", ""⟩, ⟨"c", "", "C", "d"⟩]⟩
    table ∈ schema.tables.toList ∧ ∃ single document, OutputsAgree schema table single document ∧
      SchemaDocument.sources document = [some "b.a", some "b.c"] := by
  intro schema table
  have hmem : table ∈ schema.tables.toList := by decide +kernel
  obtain ⟨single, document, hagree⟩ := (outputs_agree schema).1 table hmem
  refine ⟨hmem, single, document, hagree, ?_⟩
  rw [hagree.fields]
  rfl

end CollectionProfile
