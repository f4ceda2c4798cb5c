import CollectionProfile.Proofs.Schema.Tables
import Mathlib.Data.List.Infix

/-!
# A table and what was offered to it

What a table holds is told by all the fields that were ever offered to it: under each code it has
the first of them (`field?_receiveAll`), no matter at which end it was offered. The fields that it
has stay next to each other, new ones come in front or behind (`fields_infix_receiveAll`), so no
offering moves them against each other. The tables of a schema take their offers in the same way
(`Tables.offer_eq_put`).
-/

namespace CollectionProfile.Table

/-- One way of offering fields to a table. -/
inductive Offering
  | atEnd (field : Field)
  | inFront (block : List Field)

namespace Offering

def fields : Offering → List Field
  | atEnd field => [field]
  | inFront block => block

end Offering

/-- The table after an offering. -/
def receive (table : Table) : Offering → Table
  | .atEnd field => (table.offer field).1
  | .inFront block => (table.offerFront block).1

/-- The table after a run of offerings. -/
def receiveAll (table : Table) (offerings : List Offering) : Table :=
  offerings.foldl receive table

/-- The first fields of their codes in a block, without those whose code the table has. -/
def lacking (table : Table) (block : List Field) : List Field :=
  (Field.firsts block).filter fun field => !table.contains field.code

/-- What a table holds to which the offerings were made, and nothing before. -/
structure KeepsFirst (offerings : List Offering) (table : Table) : Prop where
  distinct : table.codes.Nodup
  present : ∀ code, table.contains code = true ↔
    ∃ offering ∈ offerings, ∃ field ∈ offering.fields, field.code = code
  /-- Under a code stands the field before which none of the code was offered. -/
  first : ∀ code field, table.field? code = some field ↔
    field.code = code ∧ ∃ before after,
      offerings.flatMap (·.fields) = before ++ field :: after ∧ code ∉ Field.codes before

/-- What is left of a table in a later state of it. -/
structure StaysIn (table later : Table) : Prop where
  name : later.name = table.name
  together : table.fields <:+: later.fields
  field : ∀ code, table.contains code = true → later.field? code = table.field? code
  order : ∀ code ∈ table.codes, ∀ code' ∈ table.codes,
    later.codes.idxOf code < later.codes.idxOf code' ↔
      table.codes.idxOf code < table.codes.idxOf code'

/-- How a table answers to what is offered next. -/
structure AnswersOfferings (table : Table) : Prop where
  atEnd : ∀ field, (table.offer field).2 = true ↔
    table.fields.length < (table.offer field).1.fields.length
  inFront : ∀ block, (table.offerFront block).1.fields = table.lacking block ++ table.fields ∧
    (table.offerFront block).2 = (table.lacking block).length
  again : ∀ block,
    (table.offerFront block).1.offerFront block = ((table.offerFront block).1, 0)

/-! ### One offering -/

theorem field?_eq_none_iff {table : Table} {code : String} :
    table.field? code = none ↔ code ∉ table.codes :=
  Field.find?_eq_none_iff

theorem exists_field? {table : Table} {code : String} (h : code ∈ table.codes) :
    ∃ field, table.field? code = some field :=
  Option.ne_none_iff_exists'.1 fun hnone => field?_eq_none_iff.1 hnone h

theorem codes_offerFront (table : Table) (block : List Field) :
    (table.offerFront block).1.codes
      = Field.codes (Field.novel table.codes block) ++ table.codes :=
  Field.codes_append _ _

theorem offer_of_mem {table : Table} {field : Field} (h : field.code ∈ table.codes) :
    table.offer field = (table, false) := by
  rw [offer, if_pos (contains_iff.2 h)]

theorem offer_of_not_mem {table : Table} {field : Field} (h : field.code ∉ table.codes) :
    table.offer field = (⟨table.name, table.fields ++ [field]⟩, true) := by
  rw [offer, if_neg (fun hc => h (contains_iff.1 hc))]

theorem name_receive (table : Table) (offering : Offering) :
    (table.receive offering).name = table.name := by
  cases offering with
  | atEnd field => exact table.name_offer field
  | inFront block => exact table.name_offerFront block

theorem nodup_codes_receive {table : Table} (h : table.codes.Nodup) (offering : Offering) :
    (table.receive offering).codes.Nodup := by
  cases offering with
  | atEnd field =>
    by_cases hc : field.code ∈ table.codes
    · rw [receive, offer_of_mem hc]
      exact h
    · rw [receive, offer_of_not_mem hc]
      show (Field.codes (table.fields ++ [field])).Nodup
      rw [Field.codes_append]
      exact h.append (List.nodup_singleton _) (by simpa [Field.codes] using hc)
  | inFront block =>
    rw [receive, codes_offerFront]
    refine (Field.nodup_codes_novel _ _).append h fun code hnew hold => ?_
    exact (Field.mem_codes_novel.1 hnew).2 hold

/-- A table keeps the field it has under a code. Only without one does it take the first that is
offered. -/
theorem field?_receive (table : Table) (offering : Offering) (code : String) :
    (table.receive offering).field? code
      = (table.field? code).or (offering.fields.find? (·.code = code)) := by
  cases offering with
  | atEnd field =>
    by_cases hc : field.code ∈ table.codes
    · rw [receive, offer_of_mem hc]
      by_cases hcode : field.code = code
      · obtain ⟨old, hold⟩ := exists_field? (hcode ▸ hc)
        rw [hold, Option.some_or]
      · have hnone : [field].find? (·.code = code) = none := by simpa using hcode
        rw [Offering.fields, hnone, Option.or_none]
    · rw [receive, offer_of_not_mem hc]
      exact List.find?_append
  | inFront block =>
    have hfront : (table.offerFront block).1.field? code
        = ((Field.novel table.codes block).find? (·.code = code)).or (table.field? code) :=
      List.find?_append
    rw [receive, hfront, Offering.fields]
    -- What is taken of the block stands in front, yet it never hides a field that was there.
    by_cases hc : code ∈ table.codes
    · have hnew : (Field.novel table.codes block).find? (·.code = code) = none :=
        Field.find?_eq_none_iff.2 fun hmem => (Field.mem_codes_novel.1 hmem).2 hc
      obtain ⟨old, hold⟩ := exists_field? hc
      rw [hnew, hold, Option.none_or, Option.some_or]
    · rw [Field.find?_novel hc, field?_eq_none_iff.2 hc, Option.or_none, Option.none_or]

theorem fields_infix_receive (table : Table) (offering : Offering) :
    table.fields <:+: (table.receive offering).fields := by
  cases offering with
  | atEnd field =>
    by_cases hc : field.code ∈ table.codes
    · rw [receive, offer_of_mem hc]
    · rw [receive, offer_of_not_mem hc]
      exact (List.prefix_append _ _).isInfix
  | inFront block => exact (List.suffix_append _ _).isInfix

/-! ### A run of offerings -/

theorem receiveAll_append (table : Table) (offerings more : List Offering) :
    table.receiveAll (offerings ++ more) = (table.receiveAll offerings).receiveAll more :=
  List.foldl_append

theorem name_receiveAll (table : Table) (offerings : List Offering) :
    (table.receiveAll offerings).name = table.name := by
  induction offerings generalizing table with
  | nil => rfl
  | cons offering rest ih =>
    show ((table.receive offering).receiveAll rest).name = _
    rw [ih, name_receive]

theorem nodup_codes_receiveAll {table : Table} (h : table.codes.Nodup)
    (offerings : List Offering) : (table.receiveAll offerings).codes.Nodup := by
  induction offerings generalizing table with
  | nil => exact h
  | cons offering rest ih => exact ih (nodup_codes_receive h offering)

/-- Of all fields that a run offers under a code, a table without one has the first at the end. -/
theorem field?_receiveAll (table : Table) (offerings : List Offering) (code : String) :
    (table.receiveAll offerings).field? code
      = (table.field? code).or ((offerings.flatMap (·.fields)).find? (·.code = code)) := by
  induction offerings generalizing table with
  | nil => exact Option.or_none.symm
  | cons offering rest ih =>
    show ((table.receive offering).receiveAll rest).field? code = _
    rw [ih, field?_receive, List.flatMap_cons, List.find?_append, Option.or_assoc]

theorem fields_infix_receiveAll (table : Table) (offerings : List Offering) :
    table.fields <:+: (table.receiveAll offerings).fields := by
  induction offerings generalizing table with
  | nil => exact List.infix_rfl
  | cons offering rest ih => exact (table.fields_infix_receive offering).trans (ih _)

theorem keepsFirst_receiveAll (name : String) (offerings : List Offering) :
    KeepsFirst offerings ((empty name).receiveAll offerings) := by
  have hfield : ∀ code, ((empty name).receiveAll offerings).field? code
      = (offerings.flatMap (·.fields)).find? (·.code = code) :=
    field?_receiveAll (empty name) offerings
  constructor
  case distinct =>
    have hempty : (empty name).codes.Nodup := List.nodup_nil
    exact nodup_codes_receiveAll hempty offerings
  case present =>
    intro code
    rw [contains_iff, ← not_iff_not, ← field?_eq_none_iff, hfield, Field.find?_eq_none_iff,
      not_iff_not, Field.mem_codes_iff]
    constructor
    · rintro ⟨field, hfield, hcode⟩
      obtain ⟨offering, hoffering, hfield⟩ := List.mem_flatMap.1 hfield
      exact ⟨offering, hoffering, field, hfield, hcode⟩
    · rintro ⟨offering, hoffering, field, hfield, hcode⟩
      exact ⟨field, List.mem_flatMap.2 ⟨offering, hoffering, hfield⟩, hcode⟩
  case first =>
    intro code field
    rw [hfield, List.find?_eq_some_iff_append]
    simp [Field.codes]

/-! ### Later states -/

/-- Where a list without repeated entries lies within another, the order is the same in both. -/
theorem idxOf_lt_idxOf_of_infix {α : Type} [DecidableEq α] {part whole : List α}
    (h : part <:+: whole) (hwhole : whole.Nodup) {a b : α} (ha : a ∈ part) (hb : b ∈ part) :
    whole.idxOf a < whole.idxOf b ↔ part.idxOf a < part.idxOf b := by
  obtain ⟨front, back, rfl⟩ := h
  -- All places are shifted by what stands in front.
  have hshift : ∀ x ∈ part, (front ++ part ++ back).idxOf x = front.length + part.idxOf x := by
    intro x hx
    have hfront : x ∉ front := by
      have hdisjoint := List.disjoint_of_nodup_append hwhole.of_append_left
      exact fun hx' => hdisjoint hx' hx
    rw [List.idxOf_append_of_mem (List.mem_append_right _ hx), List.idxOf_append_of_notMem hfront]
  rw [hshift a ha, hshift b hb, Nat.add_lt_add_iff_left]

theorem staysIn_receiveAll {table : Table} (h : table.codes.Nodup) (more : List Offering) :
    table.StaysIn (table.receiveAll more) := by
  have htogether := table.fields_infix_receiveAll more
  constructor
  case name => exact table.name_receiveAll more
  case together => exact htogether
  case field =>
    intro code hcode
    obtain ⟨old, hold⟩ := exists_field? (contains_iff.1 hcode)
    rw [field?_receiveAll, hold, Option.some_or]
  case order =>
    intro code hcode code' hcode'
    have hcodes : table.codes <:+: (table.receiveAll more).codes := htogether.map _
    exact idxOf_lt_idxOf_of_infix hcodes (nodup_codes_receiveAll h more) hcode hcode'

/-! ### Answers -/

theorem novel_codes_eq_lacking (table : Table) (block : List Field) :
    Field.novel table.codes block = table.lacking block := by
  rw [Field.novel_eq_filter_firsts, lacking]
  refine List.filter_congr fun field _ => ?_
  rw [Bool.eq_iff_iff, decide_eq_true_iff, Bool.not_eq_true', ← Bool.not_eq_true, contains_iff]

/-- A block of which every code is there leaves the table as it is. -/
theorem offerFront_of_forall_mem {table : Table} {block : List Field}
    (h : ∀ code ∈ Field.codes block, code ∈ table.codes) : table.offerFront block = (table, 0) := by
  rw [offerFront, Field.novel_eq_nil h]
  rfl

theorem answersOfferings (table : Table) : table.AnswersOfferings := by
  constructor
  case atEnd =>
    intro field
    by_cases hc : field.code ∈ table.codes
    · simp [offer_of_mem hc]
    · simp [offer_of_not_mem hc]
  case inFront =>
    intro block
    rw [← novel_codes_eq_lacking]
    exact ⟨rfl, rfl⟩
  case again =>
    intro block
    refine offerFront_of_forall_mem fun code hcode => ?_
    rw [codes_offerFront, List.mem_append, Field.mem_codes_novel]
    by_cases hc : code ∈ table.codes
    · exact .inr hc
    · exact .inl ⟨hcode, hc⟩

/-- A table made by offerings alone has the first field offered under each code, keeps it in its
place among the others whatever is offered later, and counts what it takes. -/
theorem firstOffered_stays (name : String) (offerings : List Offering) :
    KeepsFirst offerings ((empty name).receiveAll offerings) ∧
      (∀ more, StaysIn ((empty name).receiveAll offerings)
        ((empty name).receiveAll (offerings ++ more))) ∧
      AnswersOfferings ((empty name).receiveAll offerings) := by
  have hkeeps := keepsFirst_receiveAll name offerings
  refine ⟨hkeeps, fun more => ?_, answersOfferings _⟩
  rw [receiveAll_append]
  exact staysIn_receiveAll hkeeps.distinct more

-- The block repeats a code of the table and one of its own.
example : ((empty "t").receiveAll
    [.atEnd (.declare "a" "" "" ""), .inFront (["b", "a", "b", "c"].map (.declare · "" "" "")),
      .atEnd (.declare "c" "" "" "")]).codes = ["b", "c", "a"] := by decide

/-! ### The tables of a schema -/

/-- Fields that are offered one by one are taken as those of the whole run are. -/
theorem fields_receiveAll_atEnd (table : Table) (fields : List Field) :
    (table.receiveAll (fields.map .atEnd)).fields
      = table.fields ++ Field.novel table.codes fields := by
  induction fields generalizing table with
  | nil => exact (List.append_nil _).symm
  | cons field rest ih =>
    show ((table.offer field).1.receiveAll (rest.map .atEnd)).fields = _
    rw [ih]
    by_cases hc : field.code ∈ table.codes
    · rw [offer_of_mem hc, Field.novel, if_pos hc]
    · rw [offer_of_not_mem hc, Field.novel, if_neg hc, List.append_assoc, List.singleton_append]
      congr 2
      refine Field.novel_congr (fun code => ?_) rest
      simp only [codes, List.map_append, List.map_cons, List.map_nil, List.mem_append,
        List.mem_cons, List.not_mem_nil, or_false]
      exact Or.comm

end CollectionProfile.Table

namespace CollectionProfile.Tables

/-- The table of this name, without fields where there is none. -/
def tableAt (tables : Tables) (name : String) : Table := ⟨name, tables.fieldsOf name⟩

theorem eq_put {tables changed : Tables} {table : Table}
    (hnames : ∀ other, other ∈ changed.names ↔ other = table.name ∨ other ∈ tables.names)
    (hfields : ∀ other, changed.fieldsOf other
      = if other = table.name then table.fields else tables.fieldsOf other) :
    changed = tables.put table := by
  refine ext_fieldsOf (fun other => ?_) fun other => ?_
  · rw [hnames, put, mem_names_alter]
  · rw [hfields, put, fieldsOf_alter]

/-- Tables take an offer as its table takes the fields of it, one by one. -/
theorem offer_eq_put (tables : Tables) (name : String) (fields : List Field) :
    (tables.offer name fields).1
      = tables.put ((tables.tableAt name).receiveAll (fields.map .atEnd)) := by
  have hname := (tables.tableAt name).name_receiveAll (fields.map .atEnd)
  refine eq_put (fun other => ?_) fun other => ?_
  · rw [mem_names_offer, hname, tableAt]
  · rw [fieldsOf_offer, hname, Table.fields_receiveAll_atEnd]
    by_cases h : other = name
    · simp [h, tableAt, Table.codes, Field.codes]
    · simp [h, tableAt]

/-- Tables take a block in front as its table does. -/
theorem offerFront_eq_put (tables : Tables) (name : String) (block : List Field) :
    (tables.offerFront name block).1
      = tables.put ((tables.tableAt name).receive (.inFront block)) := by
  have hname := (tables.tableAt name).name_receive (.inFront block)
  refine eq_put (fun other => ?_) fun other => ?_
  · rw [mem_names_offerFront, hname, tableAt]
  · rw [fieldsOf_offerFront, hname]
    by_cases h : other = name
    · simp [h, tableAt, Table.receive, Table.offerFront, Table.codes, Field.codes]
    · simp [h, tableAt]

end CollectionProfile.Tables
