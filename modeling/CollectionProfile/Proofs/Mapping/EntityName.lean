import CollectionProfile.Proofs.Delivery.Batch
import CollectionProfile.Proofs.Delivery.SchemaDocument
import CollectionProfile.Proofs.Mapping.Groups
import CollectionProfile.Proofs.Profile.WellFormed
import CollectionProfile.Proofs.Schema.Relationship

/-!
# Entity names in mappings

Mappings name tables by their entity names in two places. The groups of relations are made for
tables that relationship types join; these are marked, so the names of the groups differ
(`ofProfile_distinctGroups`). The code of a mapping is made for any table of a schema, and there
names come from all dialects as they are: two mappings have one code just where the entity names are
one, and the mapping of all tables counts as that of the entity `all_tables` (`sameCode_iff`).
-/

namespace CollectionProfile.Mapping

open Markup (Document)

/-! ### Groups of relations -/

/-- The containers among the rows of relations. Only containers lack a source. -/
def containers (rows : List Row) : List Row := rows.filter (·.source = "")

/-- The items among the rows of relations. Only items are repeated. -/
def items (rows : List Row) : List Row := rows.filter (·.options = "returnAsArray=true")

/-- The rows of the relations in the mapping of one table. They stand behind those of its fields. -/
def Sheet.relationPart (sheet : Sheet) : List Row := sheet.mappingRows.drop (1 + sheet.fieldRows)

/-- The rows make one group for each table related to the base, and no name stands for two of these
tables. -/
structure HasDistinctGroups (relationships : List Relationship) (base : String)
    (rows : List Row) : Prop where
  groups : ∃ others, IsFirstOccurrences (otherTables relationships base) others ∧
    (containers rows).map (·.element) = others.map (fun other => "related_" ++ entityName other) ∧
    (items rows).map (·.element) = others.map entityName ∧
    (items rows).map (·.source) = others.map (fun other => base ++ "." ++ other)
  containerNames : ((containers rows).map (·.element)).Nodup
  itemNames : ((items rows).map (·.element)).Nodup
  itemSources : ((items rows).map (·.source)).Nodup

/-- A group begins with a row without a source and a row that is repeated; none of the others is
such a row. -/
theorem exists_groupRows_eq (base other : String) (numbering : Numbering) :
    ∃ container item fields,
      (groupRows base other numbering).1 = container :: item :: fields ∧
      container.element = "related_" ++ entityName other ∧ container.source = "" ∧
      container.options = "" ∧ item.element = entityName other ∧
      item.source = base ++ "." ++ other ∧ item.options = "returnAsArray=true" ∧
      ∀ row ∈ fields, row.source ≠ "" ∧ row.options = "" := by
  refine ⟨_, _, _, rfl, rfl, rfl, rfl, rfl, rfl, rfl, fun row hmem => ?_⟩
  obtain ⟨⟨field, id⟩, -, rfl⟩ := List.mem_map.1 hmem
  refine ⟨?_, rfl⟩
  show base ++ "." ++ other ++ "." ++ field.path ≠ ""
  simp

theorem containers_groupRows (base other : String) (numbering : Numbering) :
    ∃ container, containers (groupRows base other numbering).1 = [container] ∧
      container.element = "related_" ++ entityName other := by
  obtain ⟨container, item, fields, hrows, helement, hsource, -, -, hitem, -, hfields⟩ :=
    exists_groupRows_eq base other numbering
  have hnone : fields.filter (fun row : Row => row.source = "") = [] :=
    List.filter_eq_nil_iff.2 fun row hmem => by simpa using (hfields row hmem).1
  refine ⟨container, ?_, helement⟩
  rw [containers, hrows, List.filter_cons_of_pos (by simpa using hsource),
    List.filter_cons_of_neg (by simp [hitem]), hnone]

theorem items_groupRows (base other : String) (numbering : Numbering) :
    ∃ item, items (groupRows base other numbering).1 = [item] ∧
      item.element = entityName other ∧ item.source = base ++ "." ++ other := by
  obtain ⟨container, item, fields, hrows, -, -, hcontainer, helement, hsource, hoptions, hfields⟩ :=
    exists_groupRows_eq base other numbering
  have hnone : fields.filter (fun row : Row => row.options = "returnAsArray=true") = [] :=
    List.filter_eq_nil_iff.2 fun row hmem => by simp [(hfields row hmem).2]
  refine ⟨item, ?_, helement, hsource⟩
  rw [items, hrows, List.filter_cons_of_neg (by simp [hcontainer]),
    List.filter_cons_of_pos (by simpa using hoptions), hnone]

theorem names_groupsRows (base : String) (others : List String) (numbering : Numbering) :
    (containers (groupsRows base others numbering).1).map (·.element)
        = others.map (fun other => "related_" ++ entityName other) ∧
      (items (groupsRows base others numbering).1).map (·.element) = others.map entityName ∧
      (items (groupsRows base others numbering).1).map (·.source)
        = others.map (fun other => base ++ "." ++ other) := by
  induction others generalizing numbering with
  | nil => exact ⟨rfl, rfl, rfl⟩
  | cons other rest ih =>
    obtain ⟨container, hcontainer, hcontainerName⟩ := containers_groupRows base other numbering
    obtain ⟨item, hitem, hitemName, hsource⟩ := items_groupRows base other numbering
    obtain ⟨hcontainers, hitems, hsources⟩ := ih (groupRows base other numbering).2
    rw [containers] at hcontainer hcontainers
    rw [items] at hitem hitems hsources
    simp only [containers, items, groupsRows, List.filter_append, hcontainer, hitem,
      List.singleton_append, List.map_cons, hcontainerName, hitemName, hsource, hcontainers, hitems,
      hsources, and_self]

/-- Where all tables on the other side are marked, no two groups share a name. -/
theorem hasDistinctGroups_relationRows {relationships : List Relationship} {base : String}
    (hmarked : ∀ other ∈ otherTables relationships base, IsMarked other) (numbering : Numbering) :
    HasDistinctGroups relationships base (relationRows relationships base numbering).1 := by
  have hothers := isFirstOccurrences_eraseDups (otherTables relationships base)
  rw [relationRows, map_fst_relatedTables]
  obtain ⟨hcontainers, hitems, hsources⟩ :=
    names_groupsRows base (otherTables relationships base).eraseDups numbering
  have hnames : ∀ a ∈ (otherTables relationships base).eraseDups,
      ∀ b ∈ (otherTables relationships base).eraseDups, entityName a = entityName b → a = b :=
    fun a ha b hb => entityName_inj (hmarked a ((hothers.mem_iff a).1 ha))
      (hmarked b ((hothers.mem_iff b).1 hb))
  -- Sources hold the names of tables unchanged; only the other two need the marks.
  refine ⟨⟨_, hothers, hcontainers, hitems, hsources⟩, ?_, ?_, ?_⟩
  · rw [hcontainers]
    exact hothers.nodup.map_on fun a ha b hb h =>
      hnames a ha b hb ((String.append_right_inj _).1 h)
  · rw [hitems]
    exact hothers.nodup.map_on hnames
  · rw [hsources]
    exact hothers.nodup.map fun a b h => (String.append_right_inj _).1 h

theorem isMarked_of_mem_otherTables {document : Document} {base other : String}
    (h : other ∈ otherTables (RelationshipTable.relationships document) base) : IsMarked other := by
  obtain ⟨relationship, hmem, rfl⟩ := List.mem_map.1 h
  have hsound := RelationshipTable.isSound_of_mem (List.mem_filter.1 hmem).1
  rw [Relationship.other]
  split
  · exact hsound.right
  · exact hsound.left

theorem relationPart_compileFields (table : String) (fields : List Field)
    (relationships : List Relationship) (options : Options) :
    (compileFields table fields relationships options).relationPart
      = relationsOf table fields relationships options := by
  rw [Sheet.relationPart, mappingRows_compileFields, rulesOf]
  apply List.drop_left'
  simp [compileFields, Nat.add_comm]

/-- In the mappings of a profile the relations of a table make one group for each related table, and
the names that the groups have differ. -/
theorem ofProfile_distinctGroups {text : String} {document : Document}
    (h : Document.ofText text = .ok document) :
    ∃ schema, Schema.ofProfile text = .ok schema ∧ ∀ base,
      (∀ start, HasDistinctGroups schema.relationships base
        (compileRelations schema.relationships base start).1) ∧
      (∀ fields convention, HasDistinctGroups schema.relationships base
        (compileFields base fields schema.relationships ⟨convention, true⟩).relationPart) ∧
      (base ∈ schema.tables.names → ∀ convention, ∃ sheet,
        compileTable schema base ⟨convention, true⟩ = .ok sheet ∧
        HasDistinctGroups schema.relationships base sheet.relationPart) := by
  refine ⟨.ofDocument document, ofProfile_of_ofText h, fun base => ?_⟩
  have hgroups : ∀ start, HasDistinctGroups (Schema.ofDocument document).relationships base
      (compileRelations (Schema.ofDocument document).relationships base start).1 :=
    fun start => hasDistinctGroups_relationRows (fun _ => isMarked_of_mem_otherTables) _
  have hsheets : ∀ fields convention,
      HasDistinctGroups (Schema.ofDocument document).relationships base
        (compileFields base fields (Schema.ofDocument document).relationships
          ⟨convention, true⟩).relationPart := by
    intro fields convention
    rw [relationPart_compileFields, relationsOf, if_pos rfl]
    exact hgroups _
  refine ⟨hgroups, hsheets, fun hmem convention => ?_⟩
  obtain ⟨table, htable, rfl⟩ := Tables.mem_names_iff.1 hmem
  exact ⟨_, compileTable_of_mem htable _, hsheets _ _⟩

/-- Of the tables on the other side one has the mark twice, and one is nothing but the mark. -/
theorem ofProfile_distinctGroups_marks :
    let text := "<p><relationshipTable name='objects_x_entities'><type/></relationshipTable>"
      ++ "<relationshipTable name='ca_entities_x_objects'><type/></relationshipTable>"
      ++ "<relationshipTable name='objects_x_'><type/></relationshipTable></p>"
    ∃ document schema, Document.ofText text = .ok document ∧ Schema.ofProfile text = .ok schema ∧
      HasDistinctGroups schema.relationships "ca_objects"
        (compileRelations schema.relationships "ca_objects" 2).1 ∧
      (relatedTables schema.relationships "ca_objects").map (·.1)
        = ["ca_entities", "ca_ca_entities", "ca_"] := by
  intro text
  have hread : (Document.ofText text).toOption.any (fun document =>
      (relatedTables (RelationshipTable.relationships document) "ca_objects").map (·.1)
        = ["ca_entities", "ca_ca_entities", "ca_"]) = true := by decide +kernel
  obtain ⟨document, hdocument, hrelated⟩ := exists_ok_of_any hread
  obtain ⟨schema, hschema, hgroups⟩ := ofProfile_distinctGroups hdocument
  obtain rfl : Schema.ofDocument document = schema :=
    Except.ok.inj ((ofProfile_of_ofText hdocument).symm.trans hschema)
  exact ⟨document, _, hdocument, hschema, (hgroups "ca_objects").1 2, of_decide_eq_true hrelated⟩

/-! ### Codes of mappings -/

/-- The mapping of the table has the code. -/
def HasCode (schema : Schema) (table : String) (options : Options) (code : String) : Prop :=
  ∃ sheet, compileTable schema table options = .ok sheet ∧ sheet.setting? "code" = some code

/-- The code that names an entity and an exporter. -/
def entityCode (entity : String) (convention : Convention) : String :=
  "export_" ++ entity ++ "_" ++ convention.smallToken

theorem Convention.smallToken_inj {convention convention' : Convention}
    (h : convention.smallToken = convention'.smallToken) : convention = convention' := by
  cases convention <;> cases convention' <;> simp_all [smallToken]

/-- The code of an entity tells the entity, and the exporter behind it. -/
theorem entityCode_inj {entity entity' : String} {convention convention' : Convention} :
    entityCode entity convention = entityCode entity' convention' ↔
      entity = entity' ∧ convention = convention' := by
  refine ⟨fun h => ?_, fun ⟨hentity, hconvention⟩ => by rw [hentity, hconvention]⟩
  -- The names of all exporters have one length, so what stands in front of them ends at one place.
  have hlength : convention.smallToken.toList.length = convention'.smallToken.toList.length := by
    cases convention <;> cases convention' <;> rfl
  have htext := congrArg String.toList h
  simp only [entityCode, String.toList_append] at htext
  obtain ⟨hfront, htoken⟩ := List.append_inj' htext hlength
  have hentity := (List.append_right_inj _).1 ((List.append_left_inj _).1 hfront)
  exact ⟨String.toList_inj.1 hentity, Convention.smallToken_inj (String.toList_inj.1 htoken)⟩

theorem setting?_code {sheet : Sheet} {rules : List Row}
    (hrules : ∀ row ∈ rules, row.rule = .mapping)
    {code codeNote name table tableNote token : String} (hrows : sheet.rows
      = rules ++ (separators ++ settingsBlock code codeNote name table tableNote token)) :
    sheet.setting? "code" = some code := by
  -- No rule is a setting, so the first setting of all is the first of the block.
  have hnone : rules.filter (·.rule = .setting) = [] :=
    List.filter_eq_nil_iff.2 fun row hmem => by simp [hrules row hmem]
  rw [Sheet.setting?, Sheet.settings, hrows, List.filter_append, hnone]
  rfl

theorem hasCode_of_mem {schema : Schema} {table : String} (h : table ∈ schema.tables.names)
    (options : Options) :
    HasCode schema table options (entityCode (entityName table) options.convention) := by
  obtain ⟨entry, hentry, rfl⟩ := Tables.mem_names_iff.1 h
  refine ⟨_, compileTable_of_mem hentry options, ?_⟩
  exact setting?_code (rule_rulesOf _ _ _ options) (rows_compileFields _ _ _ options)

theorem setting?_code_compileCombined (schema : Schema) (convention : Convention) :
    (compileCombined schema convention).setting? "code"
      = some (entityCode "all_tables" convention) := by
  have hcode : entityCode "all_tables" convention
      = "export_all_tables_" ++ convention.smallToken := by
    cases convention <;> rfl
  rw [hcode]
  exact setting?_code (rule_combinedRules _) (rows_combine _ _)

/-- Two mappings of tables have one code just where they are made for one entity name and one
exporter, and that of all tables counts as one for the entity `all_tables`. So no two marked tables
share a code, whatever their relations. -/
theorem sameCode_iff (schema : Schema) {a b : String} (ha : a ∈ schema.tables.names)
    (hb : b ∈ schema.tables.names) (options options' : Options) (convention : Convention) :
    ∃ code code' combined, HasCode schema a options code ∧ HasCode schema b options' code' ∧
      (compileCombined schema convention).setting? "code" = some combined ∧
      (code = code' ↔ entityName a = entityName b ∧ options.convention = options'.convention) ∧
      (IsMarked a → IsMarked b → a ≠ b → code ≠ code') ∧
      (code = combined ↔ entityName a = "all_tables" ∧ options.convention = convention) := by
  refine ⟨_, _, _, hasCode_of_mem ha options, hasCode_of_mem hb options',
    setting?_code_compileCombined schema convention, entityCode_inj, ?_, entityCode_inj⟩
  intro hmarked hmarked' hne heq
  exact hne (entityName_inj hmarked hmarked' (entityCode_inj.1 heq).1)

/-- A marked table, and one that has the mark in the middle of its name. -/
theorem sameCode_iff_middle :
    let schema : Schema :=
      { tables := ⟨[⟨"ca_objects", []⟩, ⟨"objca_ects", []⟩], by decide⟩
        relationships := []
        vocabulary := {} }
    "ca_objects" ∈ schema.tables.names ∧ "objca_ects" ∈ schema.tables.names ∧
      ∃ code code', HasCode schema "ca_objects" {} code ∧ HasCode schema "objca_ects" {} code' ∧
        code = code' := by
  intro schema
  have hmarked : "ca_objects" ∈ schema.tables.names := by decide
  have hmiddle : "objca_ects" ∈ schema.tables.names := by decide
  obtain ⟨code, code', -, hcode, hcode', -, hsame, -, -⟩ :=
    sameCode_iff schema hmarked hmiddle {} {} .technical
  exact ⟨hmarked, hmiddle, code, code', hcode, hcode', hsame.2 (by decide)⟩

/-- One table is named like a base table without the mark, and one as if it were all tables: the
mappings of the first two have one code, and that of the third has the code of the mapping of all
tables. -/
theorem sharesCode_unmarked :
    let text := "<p><elementSet code='objects'/><elementSet code='ca_all_tables'/></p>"
    ∃ schema, Schema.ofProfile text = .ok schema ∧ ∀ options,
      (∃ a ∈ schema.tables.names, ∃ b ∈ schema.tables.names, a ≠ b ∧
        ∃ code, HasCode schema a options code ∧ HasCode schema b options code) ∧
      ∃ a ∈ schema.tables.names, ∃ code, HasCode schema a options code ∧
        (compileCombined schema options.convention).setting? "code" = some code := by
  intro text
  have hread : (Document.ofText text).toOption.any (fun document =>
      ["objects", "ca_objects", "ca_all_tables"].all fun name =>
        name ∈ (Tables.empty.mergeAll (extractions document)).withIntrinsics.names) = true := by
    decide +kernel
  obtain ⟨document, hdocument, hnames⟩ := exists_ok_of_any hread
  rw [← SchemaDocument.tables_ofDocument] at hnames
  simp only [List.all_cons, List.all_nil, Bool.and_true, Bool.and_eq_true, decide_eq_true_iff]
    at hnames
  obtain ⟨hobjects, hmarked, hall⟩ := hnames
  refine ⟨_, ofProfile_of_ofText hdocument, fun options => ⟨?_, ?_⟩⟩
  · exact ⟨_, hobjects, _, hmarked, by decide, _, hasCode_of_mem hobjects options,
      hasCode_of_mem hmarked options⟩
  · exact ⟨_, hall, _, hasCode_of_mem hall options, setting?_code_compileCombined _ _⟩

end CollectionProfile.Mapping
