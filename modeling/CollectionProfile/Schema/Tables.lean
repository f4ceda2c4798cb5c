import CollectionProfile.Schema.Table

/-!
# Collections of tables

The tables of a schema, at most one to a name and in strictly ascending order of their names by code
points. The order is part of the type, so every operation keeps it. `KeyedTables` are tables in the
order of keys that need not be their names; where each table stands under its own name the two are
the same (`Tables.keyed`).
-/

namespace CollectionProfile

/-- Tables in strictly ascending order of their names. -/
structure Tables where
  toList : List Table
  ascending : toList.Pairwise fun a b => a.name < b.name
deriving DecidableEq

namespace Tables

/-- No tables. -/
def empty : Tables := ⟨[], .nil⟩

/-- The names, ascending. -/
def names (tables : Tables) : List String := tables.toList.map (·.name)

/-- The table of this name. -/
def find? (tables : Tables) (name : String) : Option Table := tables.toList.find? (·.name = name)

/-- The fields of the table of this name; none if there is no such table. -/
def fieldsOf (tables : Tables) (name : String) : List Field :=
  match tables.find? name with
  | some table => table.fields
  | none => []

/-- A run of tables in which the fields of the table `name` are changed by `change`. Where the run
has no such table, one without fields is put into its place first. -/
def adjust (name : String) (change : List Field → List Field) : List Table → List Table
  | [] => [⟨name, change []⟩]
  | table :: rest =>
    if table.name = name then ⟨name, change table.fields⟩ :: rest
    else if name < table.name then ⟨name, change []⟩ :: table :: rest
    else table :: adjust name change rest

theorem name_mem_adjust {name : String} {change : List Field → List Field} {list : List Table}
    {table : Table} (h : table ∈ adjust name change list) :
    table.name = name ∨ ∃ other ∈ list, other.name = table.name := by
  induction list with
  | nil => simp [adjust] at h; simp [h]
  | cons head rest ih =>
    unfold adjust at h
    split at h
    next heq =>
      rcases List.mem_cons.1 h with rfl | hr
      · exact .inl rfl
      · exact .inr ⟨table, List.mem_cons_of_mem _ hr, rfl⟩
    next =>
      split at h
      next =>
        rcases List.mem_cons.1 h with rfl | hr
        · exact .inl rfl
        · exact .inr ⟨table, hr, rfl⟩
      next =>
        rcases List.mem_cons.1 h with rfl | hr
        · exact .inr ⟨table, List.mem_cons_self, rfl⟩
        · rcases ih hr with hn | ⟨other, ho, hn⟩
          · exact .inl hn
          · exact .inr ⟨other, List.mem_cons_of_mem _ ho, hn⟩

theorem ascending_adjust (name : String) (change : List Field → List Field) {list : List Table}
    (h : list.Pairwise fun a b => a.name < b.name) :
    (adjust name change list).Pairwise fun a b => a.name < b.name := by
  induction list with
  | nil => simp [adjust]
  | cons head rest ih =>
    obtain ⟨hhead, hrest⟩ := List.pairwise_cons.1 h
    unfold adjust
    split
    next heq => exact List.pairwise_cons.2 ⟨fun b hb => by simpa [heq] using hhead b hb, hrest⟩
    next hne =>
      split
      next hlt =>
        refine List.pairwise_cons.2 ⟨fun b hb => ?_, h⟩
        rcases List.mem_cons.1 hb with rfl | hb
        · exact hlt
        · exact String.lt_trans hlt (hhead b hb)
      next hnlt =>
        refine List.pairwise_cons.2 ⟨fun b hb => ?_, ih hrest⟩
        rcases name_mem_adjust hb with hn | ⟨other, ho, hn⟩
        · rw [hn]
          refine Decidable.byContradiction fun hlt => hne ?_
          exact String.le_antisymm (String.not_lt.1 hnlt) (String.not_lt.1 hlt)
        · exact hn ▸ hhead other ho

/-- The fields of the table `name`, which is created where it is missing, changed by `change`. -/
def alter (tables : Tables) (name : String) (change : List Field → List Field) : Tables :=
  ⟨adjust name change tables.toList, ascending_adjust name change tables.ascending⟩

/-- The tables with `table` in place of any table of its name. -/
def put (tables : Tables) (table : Table) : Tables :=
  tables.alter table.name fun _ => table.fields

/-- The tables after a run of fields was offered to the table `name`, and how many of them were
taken. An offer of no fields still makes the table exist. -/
def offer (tables : Tables) (name : String) (fields : List Field) : Tables × Nat :=
  let taken := Field.novel ((tables.fieldsOf name).map (·.code)) fields
  (tables.alter name (· ++ taken), taken.length)

/-- The tables after a block was offered in front of the fields of the table `name`, and how many of
the block's fields were taken. -/
def offerFront (tables : Tables) (name : String) (block : List Field) : Tables × Nat :=
  let taken := Field.novel ((tables.fieldsOf name).map (·.code)) block
  (tables.alter name (taken ++ ·), taken.length)

/-- The number of fields of all tables together. -/
def fieldCount (tables : Tables) : Nat := (tables.toList.flatMap (·.fields)).length

end Tables

/-- Tables under keys, in strictly ascending order of the keys. The key of a table need not be its
name. -/
structure KeyedTables where
  entries : List (String × Table)
  ascending : entries.Pairwise fun a b => a.1 < b.1

namespace KeyedTables

/-- The tables, in the order of their keys. -/
def values (tables : KeyedTables) : List Table := tables.entries.map (·.2)

/-- The number of fields of all tables together. -/
def fieldCount (tables : KeyedTables) : Nat := (tables.values.flatMap (·.fields)).length

/-- Every table is stored under its own name. -/
def OwnNames (tables : KeyedTables) : Prop := ∀ entry ∈ tables.entries, entry.2.name = entry.1

instance (tables : KeyedTables) : Decidable tables.OwnNames :=
  inferInstanceAs (Decidable (∀ entry ∈ tables.entries, entry.2.name = entry.1))

/-- Tables stored under their own names come in the order of their names. -/
theorem OwnNames.ascending {tables : KeyedTables} (h : tables.OwnNames) :
    (tables.entries.map (·.2.name)).Pairwise (· < ·) := by
  rw [List.map_congr_left h]
  exact List.pairwise_map.2 tables.ascending

end KeyedTables

namespace Tables

/-- The tables, each under its own name. -/
def keyed (tables : Tables) : KeyedTables where
  entries := tables.toList.map fun table => (table.name, table)
  ascending := List.pairwise_map.2 tables.ascending

theorem ownNames_keyed (tables : Tables) : tables.keyed.OwnNames := by
  intro entry hmem
  obtain ⟨table, -, rfl⟩ := List.mem_map.1 hmem
  rfl

@[simp] theorem values_keyed (tables : Tables) : tables.keyed.values = tables.toList := by
  rw [KeyedTables.values, keyed, List.map_map]
  exact List.map_id _

@[simp] theorem fieldCount_keyed (tables : Tables) :
    tables.keyed.fieldCount = tables.fieldCount := by
  rw [KeyedTables.fieldCount, values_keyed, fieldCount]

end Tables

end CollectionProfile
