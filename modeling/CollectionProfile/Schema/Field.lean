/-!
# Fields

A field is one exportable attribute of a table. `Field.declare` is how a field comes into being from
what a profile says about it; `Field.novel` selects from a run of offered fields those whose code
has not been met before.
-/

namespace CollectionProfile

/-- One exportable attribute of a table, identified within its table by its code. -/
structure Field where
  /-- The element code. -/
  code : String
  /-- The datatype tag, free text such as `Text` or `List`. -/
  datatype : String
  /-- The label shown to people. -/
  label : String
  /-- The description, possibly empty. -/
  description : String
deriving DecidableEq, Repr, Inhabited

namespace Field

/-- The field with the given properties; an empty label is replaced by the code. -/
def declare (code datatype label description : String) : Field where
  code
  datatype
  label := if label = "" then code else label
  description

/-- The path under which a table exposes the field. -/
def source (table : String) (field : Field) : String :=
  table ++ "." ++ field.code

/-- The label, with the description after a dash where there is one. -/
def notes (field : Field) : String :=
  if field.description = "" then field.label else field.label ++ " - " ++ field.description

/-- The fields of a run whose code is neither among `taken` nor met earlier in the run. -/
def novel (taken : List String) : List Field → List Field
  | [] => []
  | field :: rest =>
    if field.code ∈ taken then novel taken rest else field :: novel (field.code :: taken) rest

theorem label_declare_ne_empty {code datatype label description : String} (h : code ≠ "") :
    (declare code datatype label description).label ≠ "" := by
  by_cases hl : label = "" <;> simp [declare, hl, h]

end Field

end CollectionProfile
