import CollectionProfile.Proofs.Delivery.SchemaDocument
import CollectionProfile.Proofs.Markup.Distinct

/-!
# Schema documents tell their tables

Two schema documents have the same bytes only if they are documents of the same table with the same
fields, whatever characters stand in its strings (`bytes_eq_iff`). An omitted description differs
from every description that is present, since the block of the field has one block less.
-/

namespace CollectionProfile.SchemaDocument

open Markup (Block IsName)
open Markup.Block (IsUnmixed HasNames)

/-! ### Blocks of tables -/

theorem ofText_injective : Function.Injective fun pair : String × String =>
    Block.ofText pair.1 pair.2 := by
  rintro ⟨name, text⟩ ⟨name', text'⟩ h
  simpa [Block.ofText] using h

/-- The block of a field tells the field, also whether it has a description. -/
theorem fieldBlock_injective (table : String) : Function.Injective (fieldBlock table) := by
  intro field field' h
  have hchildren := congrArg Block.children h
  rw [children_fieldBlock, children_fieldBlock] at hchildren
  have htexts : fieldTexts table field = fieldTexts table field' :=
    ofText_injective.list_map hchildren
  obtain ⟨code, datatype, label, description⟩ := field
  obtain ⟨code', datatype', label', description'⟩ := field'
  by_cases hempty : description = "" <;> by_cases hempty' : description' = "" <;>
    simp_all [fieldTexts]

theorem tableBlock_inj {table other : String} {fields others : List Field} :
    tableBlock table fields = tableBlock other others ↔ table = other ∧ fields = others := by
  constructor
  · intro h
    obtain rfl : table = other := by simpa [tableBlock] using congrArg Block.attributes h
    have hfields : fields.map (fieldBlock table) = others.map (fieldBlock table) := by
      simpa [tableBlock] using congrArg Block.children h
    exact ⟨rfl, (fieldBlock_injective table).list_map hfields⟩
  · rintro ⟨rfl, rfl⟩
    rfl

theorem combined_inj {schema other : Schema} :
    combined schema = combined other ↔ schema.tables = other.tables := by
  constructor
  · intro h
    have hblock : Function.Injective fun table : Table => tableBlock table.name table.fields := by
      rintro ⟨name, fields⟩ ⟨name', fields'⟩ h
      obtain ⟨rfl, rfl⟩ := tableBlock_inj.1 h
      rfl
    have htables : schema.tables.toList = other.tables.toList :=
      hblock.list_map (congrArg Block.children h)
    obtain ⟨⟨tables, hascending⟩, relationships, vocabulary⟩ := schema
    obtain ⟨⟨tables', hascending'⟩, relationships', vocabulary'⟩ := other
    simpa using htables
  · intro h
    rw [combined, combined, h]

/-! ### Documents -/

theorem all_isUnmixed_tableBlock (table : String) (fields : List Field) :
    (tableBlock table fields).All IsUnmixed := by
  have halone : (tableBlock table fields).All fun block =>
      block.text = none ∨ block.children = [] := by
    rw [all_tableBlock_iff]
    exact ⟨.inl rfl, .inl rfl, fun field _ => ⟨.inl rfl, fun pair _ => .inr rfl⟩⟩
  exact ((all_hasNames_tableBlock table fields).and halone).imp fun _ h => ⟨h.1, h.2⟩

theorem all_isUnmixed_combined (schema : Schema) : (combined schema).All IsUnmixed := by
  refine .intro ⟨hasNames_of_isName (by decide : IsName "schemas") rfl, .inl rfl⟩ ?_
  intro child hchild
  obtain ⟨table, -, rfl⟩ := List.mem_map.1 hchild
  exact all_isUnmixed_tableBlock table.name table.fields

/-- The bytes of a schema document tell the name of its table and the fields, those of the combined
document tell all tables. -/
theorem bytes_eq_iff :
    (∀ (table other : String) (fields others : List Field),
      (tableBlock table fields).bytes = (tableBlock other others).bytes ↔
        table = other ∧ fields = others) ∧
    ∀ schema other : Schema,
      (combined schema).bytes = (combined other).bytes ↔ schema.tables = other.tables := by
  constructor
  · intro table other fields others
    rw [Block.bytes_inj (all_isUnmixed_tableBlock table fields)
      (all_isUnmixed_tableBlock other others), tableBlock_inj]
  · intro schema other
    rw [Block.bytes_inj (all_isUnmixed_combined schema) (all_isUnmixed_combined other),
      combined_inj]

end CollectionProfile.SchemaDocument
