import CollectionProfile.Delivery.Artifact
import CollectionProfile.Proofs.Markup.Plain
import CollectionProfile.Proofs.Markup.Search
import CollectionProfile.Proofs.Profile.Declared
import Mathlib.Data.List.Forall2

/-!
# Reading schema documents back

`Document.Presents` says what a schema document has to show of a table. The document that is written
for a table shows all of it exactly if the table is plain: its strings hold legal characters only,
its name holds no blank but the space, and no text holds a carriage return that is read as a line
feed (`presents_iff_isPlain`).
-/

namespace CollectionProfile

open Markup (Block Document Element Node Place IsLegalString IsName IsPlainText IsPlainValue)

/-! ### What a schema document shows -/

/-- The texts of the elements right under an element that have the given name. -/
def Markup.Element.childTexts (element : Element) (name : String) : List String :=
  (element.childrenNamed name).map (·.text)

/-- The element shows a field of the table, each property in one child; an empty description has
none. -/
structure Markup.Element.Shows (element : Element) (table : String) (field : Field) : Prop where
  code : element.childTexts "code" = [field.code]
  label : element.childTexts "label" = [field.label]
  datatype : element.childTexts "datatype" = [field.datatype]
  source : element.childTexts "source" = [field.source table]
  description : element.childTexts "description"
    = if field.description = "" then [] else [field.description]

/-- The document shows the table: its root has the table's name, and in it there is one element for
each field, in the order of the table. -/
def Markup.Document.Presents (document : Document) (table : Table) : Prop :=
  ∃ root, document.root? = some root ∧ root.tag = "schema"
    ∧ root.attribute? "table" = some table.name
    ∧ List.Forall₂ (fun element field => element.Shows table.name field) (root.descendants "field")
      table.fields

namespace SchemaDocument

open Markup.Block (keepsReturns settledText blanked)

/-- The names and texts of the blocks in the block of a field. -/
def fieldTexts (table : String) (field : Field) : List (String × String) :=
  [("code", field.code), ("label", field.label), ("datatype", field.datatype)]
    ++ (if field.description = "" then [] else [("description", field.description)])
    ++ [("source", field.source table)]

theorem children_fieldBlock (table : String) (field : Field) :
    (fieldBlock table field).children
      = (fieldTexts table field).map fun (name, text) => .ofText name text := by
  by_cases h : field.description = "" <;> simp [fieldBlock, fieldTexts, h]

/-- What a text is read back as. -/
def settled (text : String) : String := String.ofList (settledText false text.toList)

theorem settled_eq_self_iff {text : String} :
    settled text = text ↔ keepsReturns false text.toList = true := by
  rw [← Block.settledText_eq_self_iff, settled, ← String.toList_inj, String.toList_ofList]

theorem childTexts_fieldBlock (table : String) (field : Field) (level : Nat) (name : String) :
    ((fieldBlock table field).element level).childTexts name
      = ((fieldTexts table field).filter (·.1 = name)).map (settled ·.2) := by
  rw [Element.childTexts, Block.childrenNamed_element, children_fieldBlock, List.filter_map,
    List.map_map, List.map_map]
  refine List.map_congr_left fun pair _ => ?_
  exact Block.text_element_ofText _ pair.1 pair.2

/-- A field is shown as it is exactly if its texts are read as themselves. -/
theorem shows_fieldBlock_iff {table : String} {field : Field} {level : Nat} :
    ((fieldBlock table field).element level).Shows table field ↔
      ∀ pair ∈ fieldTexts table field, settled pair.2 = pair.2 := by
  have htexts := childTexts_fieldBlock table field level
  by_cases hempty : field.description = ""
  · constructor
    · rintro ⟨hcode, hlabel, hdatatype, hsource, -⟩
      simp_all [fieldTexts]
    · intro h
      constructor <;> simp_all [fieldTexts]
  · constructor
    · rintro ⟨hcode, hlabel, hdatatype, hsource, hdescription⟩
      simp_all [fieldTexts]
    · intro h
      constructor <;> simp_all [fieldTexts]

/-- The block of a field is the only element of its name in it. -/
theorem filter_ofNode_fieldBlock (around : List Element) (table : String) (field : Field) :
    (Place.ofNode around ((fieldBlock table field).node 2)).filter (·.tag = "field")
      = [⟨(fieldBlock table field).element 2, around⟩] := by
  have hleaf : ∀ (around : List Element) (pair : String × String),
      Place.ofNode around ((Block.ofText pair.1 pair.2).node 3)
        = [⟨(Block.ofText pair.1 pair.2).element 3, around⟩] := by
    intro around pair
    rw [Block.ofNode_node]
    rfl
  rw [Block.ofNode_node, children_fieldBlock, List.flatMap_map]
  simp only [hleaf]
  by_cases hempty : field.description = "" <;>
    simp [fieldTexts, hempty, Place.tag, Element.tag, Block.element, fieldBlock, Block.ofText]

/-- The field elements of a schema document are those of the fields, in order. -/
theorem descendants_tableBlock (table : String) (fields : List Field) :
    ((tableBlock table fields).element 0).descendants "field"
      = fields.map fun field => (fieldBlock table field).element 2 := by
  have hfields : ∀ around : List Element,
      ((fields.map (fieldBlock table)).flatMap fun child =>
          Place.ofNode around (child.node 2)).filter (·.tag = "field")
        = fields.map fun field => ⟨(fieldBlock table field).element 2, around⟩ := by
    intro around
    rw [List.flatMap_map, List.filter_flatMap]
    simp only [filter_ofNode_fieldBlock]
    exact List.map_eq_flatMap.symm
  rw [Element.descendants, Element.below, Block.ofNodes_children]
  show List.map _ (List.filter _ (List.flatMap _
    [(⟨"fields", [], none, fields.map (fieldBlock table)⟩ : Block)])) = _
  rw [List.flatMap_singleton, Block.ofNode_node,
    List.filter_cons_of_neg (by simp [Place.tag, Element.tag, Block.element]), hfields, List.map_map]
  rfl

/-- What is read of a schema document shows the table exactly if its name and texts are read as
themselves. -/
theorem presents_tableBlock_iff {table : Table} :
    (⟨[(tableBlock table.name table.fields).node 0]⟩ : Document).Presents table ↔
      blanked table.name.toList = table.name.toList ∧
        ∀ field ∈ table.fields, ∀ pair ∈ fieldTexts table.name field, settled pair.2 = pair.2 := by
  set root := (tableBlock table.name table.fields).element 0 with hroot
  have hnode : (⟨[(tableBlock table.name table.fields).node 0]⟩ : Document).root? = some root := by
    rw [Block.node_eq_toNode]
    rfl
  have hname : root.attribute? "table" = some (String.ofList (blanked table.name.toList)) := by
    simp [hroot, Element.attribute?, Block.element, tableBlock, Block.readAttributes]
  have hfields : List.Forall₂ (fun element field => element.Shows table.name field)
        (root.descendants "field") table.fields ↔
      ∀ field ∈ table.fields, ∀ pair ∈ fieldTexts table.name field, settled pair.2 = pair.2 := by
    rw [hroot, descendants_tableBlock, List.forall₂_map_left_iff, List.forall₂_same]
    simp only [shows_fieldBlock_iff]
  have hblanked : root.attribute? "table" = some table.name
      ↔ blanked table.name.toList = table.name.toList := by
    rw [hname, Option.some_inj, ← String.toList_inj, String.toList_ofList]
  rw [← hblanked, ← hfields]
  constructor
  · rintro ⟨found, hfound, -, hattribute, hshows⟩
    obtain rfl : root = found := Option.some.inj (hnode.symm.trans hfound)
    exact ⟨hattribute, hshows⟩
  · rintro ⟨hattribute, hshows⟩
    exact ⟨root, hnode, rfl, hattribute, hshows⟩

/-! ### Which tables are read back -/

theorem all_tableBlock_iff {p : Block → Prop} {table : String} {fields : List Field} :
    (tableBlock table fields).All p ↔ p (tableBlock table fields)
      ∧ p ⟨"fields", [], none, fields.map (fieldBlock table)⟩
      ∧ ∀ field ∈ fields, p (fieldBlock table field)
        ∧ ∀ pair ∈ fieldTexts table field, p (.ofText pair.1 pair.2) := by
  have hleaf : ∀ pair : String × String, (Block.ofText pair.1 pair.2).All p
      ↔ p (.ofText pair.1 pair.2) := by
    intro pair
    rw [Block.all_iff]
    simp [Block.ofText]
  have hfield : ∀ field : Field, (fieldBlock table field).All p ↔ p (fieldBlock table field)
      ∧ ∀ pair ∈ fieldTexts table field, p (.ofText pair.1 pair.2) := by
    intro field
    rw [Block.all_iff, children_fieldBlock, List.forall_mem_map]
    simp only [hleaf]
  rw [Block.all_iff]
  show _ ∧ (∀ child ∈ [(⟨"fields", [], none, fields.map (fieldBlock table)⟩ : Block)], _) ↔ _
  rw [List.forall_mem_singleton, Block.all_iff, List.forall_mem_map]
  simp only [hfield]

theorem hasNames_of_isName {block : Block} (hname : IsName block.name)
    (hattributes : block.attributes = []) : block.HasNames := by
  constructor <;> simp [hname, hattributes]

theorem all_hasNames_tableBlock (table : String) (fields : List Field) :
    (tableBlock table fields).All Block.HasNames := by
  have hleaf : ∀ field, ∀ pair ∈ fieldTexts table field, IsName pair.1 := by
    intro field
    by_cases hempty : field.description = "" <;> simp [fieldTexts, hempty] <;> decide
  have hroot : (tableBlock table fields).HasNames := by
    refine ⟨(by decide : IsName "schema"), ?_, ?_, ?_⟩ <;> simp [tableBlock] <;> decide
  rw [all_tableBlock_iff]
  refine ⟨hroot, hasNames_of_isName (by decide : IsName "fields") rfl, fun field _ => ⟨?_, ?_⟩⟩
  · exact hasNames_of_isName (by decide : IsName "field") rfl
  · intro pair hpair
    exact hasNames_of_isName (hleaf field pair hpair) rfl

theorem all_hasLegalStrings_tableBlock_iff {table : String} {fields : List Field} :
    (tableBlock table fields).All Block.HasLegalStrings ↔ IsLegalString table ∧
      ∀ field ∈ fields, ∀ pair ∈ fieldTexts table field, IsLegalString pair.2 := by
  have hroot : (tableBlock table fields).HasLegalStrings ↔ IsLegalString table := by
    constructor
    · intro h
      exact h.values ("table", table) List.mem_cons_self
    · intro h
      constructor <;> simp [tableBlock, h]
  have hbare : ∀ (name : String) (children : List Block),
      (⟨name, [], none, children⟩ : Block).HasLegalStrings := by
    intro name children
    constructor <;> simp
  have hleaf : ∀ name text : String, (Block.ofText name text).HasLegalStrings
      ↔ IsLegalString text := by
    intro name text
    constructor
    · intro h
      exact h.text text rfl
    · intro h
      constructor <;> simp [Block.ofText, h]
  have hfield : ∀ field, (fieldBlock table field).HasLegalStrings := fun field => hbare _ _
  rw [all_tableBlock_iff, hroot]
  simp only [hleaf, hbare, hfield, true_and]

end SchemaDocument

/-- A table whose strings are read as themselves where its schema document has them. -/
structure Table.IsPlain (table : Table) : Prop where
  name : IsPlainValue table.name
  texts : ∀ field ∈ table.fields,
    ∀ text ∈ [field.code, field.label, field.datatype, field.description], IsPlainText text

instance (table : Table) : Decidable table.IsPlain :=
  decidable_of_iff (IsPlainValue table.name ∧ ∀ field ∈ table.fields,
      ∀ text ∈ [field.code, field.label, field.datatype, field.description], IsPlainText text)
    ⟨fun ⟨h₁, h₂⟩ => ⟨h₁, h₂⟩, fun h => ⟨h.name, h.texts⟩⟩

namespace SchemaDocument

theorem isPlainText_iff {text : String} :
    IsPlainText text ↔ IsLegalString text ∧ settled text = text := by
  rw [settled_eq_self_iff]
  exact ⟨fun h => ⟨h.legal, h.returns⟩, fun h => ⟨h.1, h.2⟩⟩

theorem isPlainText_source {table : String} {field : Field} (htable : IsPlainValue table)
    (hcode : IsPlainText field.code) : IsPlainText (field.source table) := by
  have hchars : (field.source table).toList = table.toList ++ '.' :: field.code.toList := by
    simp [Field.source]
  have hreturn : '\r' ∉ table.toList := fun hmem => (htable _ hmem).2.1 rfl
  constructor
  · intro c hc
    rw [hchars, List.mem_append, List.mem_cons] at hc
    rcases hc with hc | rfl | hc
    · exact (htable c hc).1
    · decide
    · exact hcode.legal c hc
  · rw [hchars, Block.keepsReturns_append hreturn (by decide) (by decide)]
    exact hcode.returns

theorem isPlainText_fieldTexts_iff {table : String} {field : Field} (htable : IsPlainValue table) :
    (∀ pair ∈ fieldTexts table field, IsPlainText pair.2) ↔
      ∀ text ∈ [field.code, field.label, field.datatype, field.description], IsPlainText text := by
  have hsource := @isPlainText_source table field htable
  have hempty : IsPlainText "" := ⟨by simp [IsLegalString], rfl⟩
  by_cases h : field.description = "" <;>
    simp only [fieldTexts, h, if_true, if_false, List.append_nil, List.cons_append,
      List.nil_append, List.forall_mem_cons, List.not_mem_nil, false_imp_iff, implies_true, and_true]
  · constructor
    · rintro ⟨hcode, hlabel, hdatatype, -⟩
      exact ⟨hcode, hlabel, hdatatype, hempty⟩
    · rintro ⟨hcode, hlabel, hdatatype, -⟩
      exact ⟨hcode, hlabel, hdatatype, hsource hcode⟩
  · constructor
    · rintro ⟨hcode, hlabel, hdatatype, hdescription, -⟩
      exact ⟨hcode, hlabel, hdatatype, hdescription⟩
    · rintro ⟨hcode, hlabel, hdatatype, hdescription⟩
      exact ⟨hcode, hlabel, hdatatype, hdescription, hsource hcode⟩

/-- A table is read back from its schema document exactly if it is plain. -/
theorem presents_iff_isPlain {table : Table} :
    (∃ written, Document.ofText (String.ofList (tableBlock table.name table.fields).document)
        = .ok written ∧ written.Presents table) ↔ table.IsPlain := by
  have hnames := all_hasNames_tableBlock table.name table.fields
  -- To be plain is to be legal, which the reader accepts, and settled, which it leaves unchanged.
  have htexts : (∀ field ∈ table.fields, ∀ pair ∈ fieldTexts table.name field, IsPlainText pair.2)
      ↔ (∀ field ∈ table.fields, ∀ pair ∈ fieldTexts table.name field, IsLegalString pair.2)
        ∧ ∀ field ∈ table.fields, ∀ pair ∈ fieldTexts table.name field,
          settled pair.2 = pair.2 := by
    simp only [isPlainText_iff, imp_and, forall_and]
  constructor
  · rintro ⟨written, hwritten, hpresents⟩
    have hlegal := (Markup.exists_ofText_document_iff hnames).1 ⟨written, hwritten⟩
    rw [Markup.ofText_document (hnames.and hlegal), Except.ok.injEq] at hwritten
    rw [← hwritten, presents_tableBlock_iff] at hpresents
    rw [all_hasLegalStrings_tableBlock_iff] at hlegal
    have hname : IsPlainValue table.name := Markup.isPlainValue_iff.2 ⟨hlegal.1, hpresents.1⟩
    have hplain := htexts.2 ⟨hlegal.2, hpresents.2⟩
    exact ⟨hname, fun field hfield => (isPlainText_fieldTexts_iff hname).1 (hplain field hfield)⟩
  · rintro ⟨hname, hfields⟩
    have hplain := htexts.1 fun field hfield =>
      (isPlainText_fieldTexts_iff hname).2 (hfields field hfield)
    obtain ⟨hlegalName, hblanked⟩ := Markup.isPlainValue_iff.1 hname
    have hlegal := all_hasLegalStrings_tableBlock_iff.2 ⟨hlegalName, hplain.1⟩
    exact ⟨_, Markup.ofText_document (hnames.and hlegal),
      presents_tableBlock_iff.2 ⟨hblanked, hplain.2⟩⟩

/-- The artifact of a table holds the document of its block. -/
theorem exists_schemaDocument {schema : Schema} {table : Table}
    (h : table ∈ schema.tables.toList) :
    ∃ artifact, Artifact.schemaDocument schema table.name = .ok artifact
      ∧ artifact.text = String.ofList (tableBlock table.name table.fields).document := by
  have hfind : schema.table? table.name = some table := Tables.find?_eq_some_iff.2 ⟨h, rfl⟩
  have hwritten : ofTable schema table.name = .ok (tableBlock table.name table.fields) := by
    rw [ofTable, hfind]
  rw [Artifact.schemaDocument, hwritten]
  refine ⟨_, rfl, ?_⟩
  rw [Artifact.text, String.toList_ofList]
  rfl

/-- The dialects of a document are read in the order of their precedence. -/
theorem tables_ofDocument (document : Document) :
    (Schema.ofDocument document).tables
      = (Tables.empty.mergeAll (extractions document)).withIntrinsics := by
  have hsorted : byPrecedence (extractions document) = extractions document := by
    rw [byPrecedence_eq]
    rfl
  rw [Schema.ofDocument, Schema.assemble, hsorted]

/-- The plain tables of a profile are read back from their schema documents. -/
theorem ofProfile_presents {text : String} {document : Document}
    (h : Document.ofText text = .ok document) :
    ∃ schema, Schema.ofProfile text = .ok schema ∧ ∀ table ∈ schema.tables.toList, table.IsPlain →
      ∃ artifact written, Artifact.schemaDocument schema table.name = .ok artifact ∧
        Document.ofText artifact.text = .ok written ∧ written.Presents table := by
  refine ⟨.ofDocument document, ofProfile_of_ofText h, fun table htable hplain => ?_⟩
  obtain ⟨artifact, hartifact, htext⟩ := exists_schemaDocument htable
  obtain ⟨written, hwritten, hpresents⟩ := presents_iff_isPlain.2 hplain
  exact ⟨artifact, written, hartifact, htext ▸ hwritten, hpresents⟩

/-- Markup, quotes and blanks in the strings of a table. -/
theorem ofProfile_presents_markup :
    let text := "<p><elementSet code='&lt;t&gt; &amp; &quot;u&quot;'><element code='a'>"
      ++ "<label> &lt;b/&gt;\n ]]&gt; </label></element></elementSet></p>"
    ∃ document schema, Document.ofText text = .ok document ∧ Schema.ofProfile text = .ok schema ∧
      ∃ table ∈ schema.tables.toList, table.name = "<t> & \"u\"" ∧ table.fields ≠ [] ∧
      ∃ artifact written, Artifact.schemaDocument schema table.name = .ok artifact ∧
        Document.ofText artifact.text = .ok written ∧ written.Presents table := by
  intro text
  have hread : (Document.ofText text).toOption.any (fun document =>
      (Tables.empty.mergeAll (extractions document)).withIntrinsics.toList.any fun table =>
        table.name = "<t> & \"u\"" && !table.fields.isEmpty && decide table.IsPlain) = true := by
    decide +kernel
  obtain ⟨document, hdocument, hany⟩ := exists_ok_of_any hread
  obtain ⟨schema, hschema, hpresents⟩ := ofProfile_presents hdocument
  obtain rfl : Schema.ofDocument document = schema :=
    Except.ok.inj ((ofProfile_of_ofText hdocument).symm.trans hschema)
  rw [← tables_ofDocument, List.any_eq_true] at hany
  obtain ⟨table, htable, hplain⟩ := hany
  simp only [Bool.and_eq_true, decide_eq_true_eq, Bool.not_eq_true', List.isEmpty_eq_false_iff]
    at hplain
  exact ⟨document, _, hdocument, hschema, table, htable, hplain.1.1, hplain.1.2,
    hpresents table htable hplain.2⟩

/-- Some table of the profile is not read back from its schema document. -/
def LosesTable (text : String) : Prop :=
  ∃ schema table, Schema.ofProfile text = .ok schema ∧ table ∈ schema.tables.toList ∧
    ¬∃ artifact written, Artifact.schemaDocument schema table.name = .ok artifact ∧
      Document.ofText artifact.text = .ok written ∧ written.Presents table

theorem losesTable_of_any {text : String}
    (h : (Document.ofText text).toOption.any (fun document =>
      (Tables.empty.mergeAll (extractions document)).withIntrinsics.toList.any fun table =>
        !decide table.IsPlain) = true) : LosesTable text := by
  obtain ⟨document, hdocument, hany⟩ := exists_ok_of_any h
  rw [← tables_ofDocument, List.any_eq_true] at hany
  obtain ⟨table, htable, hplain⟩ := hany
  rw [Bool.not_eq_true', decide_eq_false_iff_not] at hplain
  refine ⟨_, table, ofProfile_of_ofText hdocument, htable, ?_⟩
  rintro ⟨artifact, written, hartifact, hwritten, hpresents⟩
  obtain ⟨found, hfound, htext⟩ := exists_schemaDocument htable
  rw [hfound, Except.ok.injEq] at hartifact
  rw [← hartifact, htext] at hwritten
  exact hplain (presents_iff_isPlain.1 ⟨written, hwritten, hpresents⟩)

/-- A carriage return in a code, a line feed in the name of a table, and a character in a code that
no document may hold. References in the profile stand for them. -/
theorem losesTable_references :
    LosesTable "<p><elementSet code='t'><element code='a&#13;b'/></elementSet></p>" ∧
    LosesTable "<p><elementSet code='t&#10;u'><element code='a'/></elementSet></p>" ∧
    LosesTable ("<!DOCTYPE p [<!ENTITY e '\x01'>]><p><elementSet code='t'>"
      ++ "<element code='a&e;'/></elementSet></p>") :=
  ⟨losesTable_of_any (by decide +kernel), losesTable_of_any (by decide +kernel),
    losesTable_of_any (by decide +kernel)⟩

end SchemaDocument

end CollectionProfile
