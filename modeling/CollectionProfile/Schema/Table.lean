import CollectionProfile.Schema.Field

/-!
# Tables

A table is a named, ordered run of fields. Fields reach it only by being offered: at the end
(`Table.offer`) or as a block in front (`Table.offerFront`); a field whose code is already there is
not taken.
-/

namespace CollectionProfile

/-- A named run of fields in output order. -/
structure Table where
  name : String
  fields : List Field
deriving DecidableEq, Repr, Inhabited

namespace Table

/-- The table of the given name that has no fields yet. -/
def empty (name : String) : Table := ⟨name, []⟩

/-- The codes of the fields, in order. -/
def codes (table : Table) : List String := table.fields.map (·.code)

/-- Whether a field of this code is present. -/
def contains (table : Table) (code : String) : Bool := table.fields.any (·.code = code)

/-- The field of this code. -/
def field? (table : Table) (code : String) : Option Field := table.fields.find? (·.code = code)

/-- The table after a field was offered at its end, and whether the field was taken. -/
def offer (table : Table) (field : Field) : Table × Bool :=
  if table.contains field.code then (table, false)
  else ({ table with fields := table.fields ++ [field] }, true)

/-- The table after a block was offered in front of its fields, and how many fields were taken.
The block keeps its own order. -/
def offerFront (table : Table) (block : List Field) : Table × Nat :=
  let taken := Field.novel table.codes block
  ({ table with fields := taken ++ table.fields }, taken.length)

theorem name_offer (table : Table) (field : Field) : (table.offer field).1.name = table.name := by
  by_cases h : table.contains field.code <;> simp [offer, h]

theorem name_offerFront (table : Table) (block : List Field) :
    (table.offerFront block).1.name = table.name := rfl

theorem contains_iff {table : Table} {code : String} :
    table.contains code = true ↔ code ∈ table.codes := by
  simp [contains, codes]

end Table

end CollectionProfile
