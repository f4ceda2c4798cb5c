import CollectionProfile.Proofs.Schema.Field
import CollectionProfile.Schema.Tables
import Mathlib.Data.List.Nodup

/-!
# Tables by name

A collection of tables is known by its names and by what each name holds: `names` and `fieldsOf` are
its two views, and two collections that agree on both are equal (`ext_fieldsOf`). Each change of a
collection is stated once for the two views.
-/

namespace CollectionProfile.Tables

theorem find?_eq_some_iff {tables : Tables} {name : String} {table : Table} :
    tables.find? name = some table ↔ table ∈ tables.toList ∧ table.name = name := by
  constructor
  · intro h
    exact ⟨List.mem_of_find?_eq_some h, by simpa using List.find?_some h⟩
  · rintro ⟨hmem, rfl⟩
    obtain ⟨front, back, hsplit⟩ := List.append_of_mem hmem
    have hasc := tables.ascending
    rw [hsplit, List.pairwise_append] at hasc
    refine List.find?_eq_some_iff_append.2 ⟨by simp, front, back, hsplit, fun other hother => ?_⟩
    -- Whatever stands before the table has a smaller name.
    have hlt := hasc.2.2 other hother table List.mem_cons_self
    simpa using fun he : other.name = table.name => String.lt_irrefl _ (he ▸ hlt)

theorem mem_names_iff {tables : Tables} {name : String} :
    name ∈ tables.names ↔ ∃ table ∈ tables.toList, table.name = name := by
  simp [names]

theorem fieldsOf_of_mem {tables : Tables} {table : Table} (h : table ∈ tables.toList) :
    tables.fieldsOf table.name = table.fields := by
  rw [fieldsOf, find?_eq_some_iff.2 ⟨h, rfl⟩]

theorem fieldsOf_of_not_mem {tables : Tables} {name : String} (h : name ∉ tables.names) :
    tables.fieldsOf name = [] := by
  unfold fieldsOf
  split
  · next table hfind =>
    exact absurd (mem_names_iff.2 ⟨table, find?_eq_some_iff.1 hfind⟩) h
  · rfl

/-- A code is among the fields under a name when a table of that name has a field of the code. -/
theorem mem_codes_fieldsOf_iff {tables : Tables} {name code : String} :
    code ∈ Field.codes (tables.fieldsOf name) ↔
      ∃ table ∈ tables.toList, table.name = name ∧ ∃ field ∈ table.fields, field.code = code := by
  constructor
  · intro h
    by_cases hmem : name ∈ tables.names
    · obtain ⟨table, htable, rfl⟩ := mem_names_iff.1 hmem
      rw [fieldsOf_of_mem htable] at h
      exact ⟨table, htable, rfl, List.mem_map.1 h⟩
    · rw [fieldsOf_of_not_mem hmem] at h
      simp [Field.codes] at h
  · rintro ⟨table, htable, rfl, hfield⟩
    rw [fieldsOf_of_mem htable]
    exact List.mem_map.2 hfield

theorem nodup_names (tables : Tables) : tables.names.Nodup := by
  refine List.Pairwise.map _ (fun a b hlt he => ?_) tables.ascending
  exact String.lt_irrefl _ (he ▸ hlt)

theorem mem_of_fieldsOf_eq {tables tables' : Tables}
    (hnames : ∀ name ∈ tables.names, name ∈ tables'.names)
    (hfields : ∀ name, tables.fieldsOf name = tables'.fieldsOf name) {table : Table}
    (hmem : table ∈ tables.toList) : table ∈ tables'.toList := by
  obtain ⟨other, hother, he⟩ :=
    mem_names_iff.1 (hnames table.name (mem_names_iff.2 ⟨table, hmem, rfl⟩))
  have hsame : other.fields = table.fields := by
    rw [← fieldsOf_of_mem hother, ← fieldsOf_of_mem hmem, he, hfields]
  obtain rfl : other = table := by
    cases other
    cases table
    simp_all
  exact hother

/-- Tables are determined by their names and the fields under each name. -/
theorem ext_fieldsOf {tables tables' : Tables}
    (hnames : ∀ name, name ∈ tables.names ↔ name ∈ tables'.names)
    (hfields : ∀ name, tables.fieldsOf name = tables'.fieldsOf name) : tables = tables' := by
  have hperm : tables.toList.Perm tables'.toList := by
    refine (List.perm_ext_iff_of_nodup ?_ ?_).2 fun table => ⟨?_, ?_⟩
    · exact List.Nodup.of_map _ tables.nodup_names
    · exact List.Nodup.of_map _ tables'.nodup_names
    · exact mem_of_fieldsOf_eq (fun name => (hnames name).1) hfields
    · exact mem_of_fieldsOf_eq (fun name => (hnames name).2) (fun name => (hfields name).symm)
  have heq : tables.toList = tables'.toList :=
    hperm.eq_of_pairwise (fun a b _ _ hab hba => absurd hba (String.lt_asymm hab))
      tables.ascending tables'.ascending
  cases tables
  cases tables'
  simpa using heq

/-! ### Changing one table -/

theorem mem_adjust_names {name other : String} {change : List Field → List Field}
    {list : List Table} :
    other ∈ (adjust name change list).map (·.name) ↔ other = name ∨ other ∈ list.map (·.name) := by
  induction list with
  | nil => simp [adjust]
  | cons head rest ih =>
    unfold adjust
    split
    · next heq =>
      simp only [List.map_cons, List.mem_cons, heq]
      tauto
    · split
      · simp only [List.map_cons, List.mem_cons]
      · simp only [List.map_cons, List.mem_cons, ih]
        tauto

theorem mem_names_alter {tables : Tables} {name other : String}
    {change : List Field → List Field} :
    other ∈ (tables.alter name change).names ↔ other = name ∨ other ∈ tables.names :=
  mem_adjust_names

theorem find?_adjust_of_ne {name other : String} (hne : other ≠ name)
    (change : List Field → List Field) (list : List Table) :
    (adjust name change list).find? (·.name = other) = list.find? (·.name = other) := by
  induction list with
  | nil => simp [adjust, hne.symm]
  | cons head rest ih =>
    unfold adjust
    split
    · next heq =>
      have hhead : ¬ head.name = other := fun he => hne (he.symm.trans heq)
      rw [List.find?_cons_of_neg (by simpa using hne.symm),
        List.find?_cons_of_neg (by simpa using hhead)]
    · split
      · rw [List.find?_cons_of_neg (by simpa using hne.symm)]
      · rw [List.find?_cons, List.find?_cons, ih]

theorem find?_adjust_self {name : String} {list : List Table}
    (hasc : list.Pairwise fun a b => a.name < b.name) (change : List Field → List Field) :
    (adjust name change list).find? (·.name = name)
      = some ⟨name, change (match list.find? (·.name = name) with
        | some table => table.fields
        | none => [])⟩ := by
  induction list with
  | nil => simp [adjust]
  | cons head rest ih =>
    obtain ⟨hhead, hrest⟩ := List.pairwise_cons.1 hasc
    unfold adjust
    split
    · next heq =>
      rw [List.find?_cons_of_pos (by simp), List.find?_cons_of_pos (by simpa using heq)]
    · next hne =>
      split
      · next hlt =>
        -- The table is new: every name of the run is larger.
        have hnone : (head :: rest).find? (·.name = name) = none := by
          refine List.find?_eq_none.2 fun table hmem => ?_
          rcases List.mem_cons.1 hmem with rfl | hmem
          · simpa using hne
          · have hgt := String.lt_trans hlt (hhead table hmem)
            simpa using fun he : table.name = name => String.lt_irrefl _ (he ▸ hgt)
        rw [List.find?_cons_of_pos (by simp), hnone]
      · rw [List.find?_cons_of_neg (by simpa using hne), ih hrest,
          List.find?_cons_of_neg (by simpa using hne)]

theorem fieldsOf_alter (tables : Tables) (name : String) (change : List Field → List Field)
    (other : String) :
    (tables.alter name change).fieldsOf other
      = if other = name then change (tables.fieldsOf name) else tables.fieldsOf other := by
  split
  · next heq =>
    subst heq
    rw [fieldsOf, find?, alter, find?_adjust_self tables.ascending]
    rfl
  · next hne =>
    rw [fieldsOf, find?, alter, find?_adjust_of_ne hne]
    rfl

/-! ### Offers -/

theorem mem_names_offer {tables : Tables} {name other : String} {fields : List Field} :
    other ∈ (tables.offer name fields).1.names ↔ other = name ∨ other ∈ tables.names :=
  mem_names_alter

theorem fieldsOf_offer (tables : Tables) (name : String) (fields : List Field) (other : String) :
    (tables.offer name fields).1.fieldsOf other = tables.fieldsOf other
      ++ if other = name then Field.novel (Field.codes (tables.fieldsOf other)) fields else [] := by
  rw [offer, fieldsOf_alter]
  split
  · next heq => rw [heq, Field.codes]
  · rw [List.append_nil]

theorem mem_names_offerFront {tables : Tables} {name other : String} {block : List Field} :
    other ∈ (tables.offerFront name block).1.names ↔ other = name ∨ other ∈ tables.names :=
  mem_names_alter

theorem fieldsOf_offerFront (tables : Tables) (name : String) (block : List Field)
    (other : String) :
    (tables.offerFront name block).1.fieldsOf other
      = (if other = name then Field.novel (Field.codes (tables.fieldsOf other)) block else [])
        ++ tables.fieldsOf other := by
  rw [offerFront, fieldsOf_alter]
  split
  · next heq => rw [heq, Field.codes]
  · rw [List.nil_append]

end CollectionProfile.Tables
