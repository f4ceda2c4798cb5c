import CollectionProfile.Profile.Assembly
import CollectionProfile.Proofs.Schema.Tables

/-!
# What an assembled schema holds

`IsAssembly` describes the schema of a list of extractions without merging anything: which tables it
has, and for every table the run of its fields, read off the offers in the order of precedence.
`assemble_exact` says that the assembled schema is the only one of this description, and that the
extractions of different dialects may stand in any order.
-/

namespace CollectionProfile

/-- All that the extractions of one dialect offer to a table, in the order of the extractions. -/
def offeredBy (dialect : Dialect) (extractions : List Extraction) (table : String) : List Field :=
  (extractions.filter (·.dialect = dialect)).flatMap fun extraction =>
    (extraction.offers.filter (·.table = table)).flatMap (·.fields)

/-- All that is offered to a table, by one dialect after the other. -/
def offeredTo (extractions : List Extraction) (table : String) : List Field :=
  offeredBy .elementSet extractions table ++ offeredBy .metadataElement extractions table
    ++ offeredBy .typeRestriction extractions table

/-- One of the nine tables that every schema has. -/
def IsBaseTable (name : String) : Prop :=
  name ∈ ["ca_objects", "ca_entities", "ca_collections", "ca_occurrences", "ca_places",
    "ca_storage_locations", "ca_loans", "ca_movements", "ca_list_items"]

instance (name : String) : Decidable (IsBaseTable name) :=
  inferInstanceAs (Decidable (name ∈ baseTables))

theorem isBaseTable_iff {name : String} : IsBaseTable name ↔ name ∈ baseTables := Iff.rfl

/-- The schema that the extractions, relationship types and vocabulary of a profile make up. A table
holds what was offered to it, each code once and by its first offer; the intrinsic fields of a base
table that were not offered stand in front. -/
structure IsAssembly (extractions : List Extraction) (relationships : List Relationship)
    (vocabulary : Vocabulary) (schema : Schema) : Prop where
  names : ∀ name, name ∈ schema.tables.names ↔
    (∃ extraction ∈ extractions, ∃ offer ∈ extraction.offers, offer.table = name)
      ∨ IsBaseTable name
  fields : ∀ table ∈ schema.tables.toList,
    let supplied := Field.firsts (offeredTo extractions table.name)
    table.fields = if IsBaseTable table.name
      then intrinsicFields.filter (·.code ∉ Field.codes supplied) ++ supplied else supplied
  relationships : schema.relationships = relationships
  vocabulary : schema.vocabulary = vocabulary

/-! ### The order of precedence -/

/-- Whether the dialect of `a` prevails over that of `b` or is the same. -/
def Extraction.prevails (a b : Extraction) : Bool := a.dialect.precedence ≤ b.dialect.precedence

theorem Extraction.prevails_trans (a b c : Extraction) (hab : a.prevails b) (hbc : b.prevails c) :
    a.prevails c :=
  decide_eq_true (Nat.le_trans (of_decide_eq_true hab) (of_decide_eq_true hbc))

theorem Extraction.prevails_total (a b : Extraction) : a.prevails b || b.prevails a := by
  simpa [Extraction.prevails] using Nat.le_total a.dialect.precedence b.dialect.precedence

/-- The sort is stable: the extractions of one dialect keep their order. -/
theorem filter_byPrecedence (extractions : List Extraction) (dialect : Dialect) :
    (byPrecedence extractions).filter (·.dialect = dialect)
      = extractions.filter (·.dialect = dialect) := by
  -- Extractions of one dialect are in order already, so a stable sort keeps their run.
  have hsorted : (extractions.filter (·.dialect = dialect)).Pairwise fun a b => a.prevails b := by
    refine List.pairwise_of_forall_mem_list fun a ha b hb => ?_
    have hda : a.dialect = dialect := by simpa using (List.mem_filter.1 ha).2
    have hdb : b.dialect = dialect := by simpa using (List.mem_filter.1 hb).2
    simp [Extraction.prevails, hda, hdb]
  have hsub := (List.sublist_mergeSort Extraction.prevails_trans Extraction.prevails_total hsorted
    List.filter_sublist).filter (·.dialect = dialect)
  rw [List.filter_filter, List.filter_congr fun a _ => Bool.and_self _] at hsub
  refine (hsub.eq_of_length ?_).symm
  exact ((List.mergeSort_perm extractions Extraction.prevails).filter _).length_eq.symm

/-- Extractions sorted by precedence are the runs of the dialects, one after the other. -/
theorem eq_append_of_prevails {list : List Extraction}
    (hsorted : list.Pairwise fun a b => a.prevails b) :
    list = list.filter (·.dialect = .elementSet) ++ list.filter (·.dialect = .metadataElement)
      ++ list.filter (·.dialect = .typeRestriction) := by
  induction list with
  | nil => rfl
  | cons head rest ih =>
    obtain ⟨hhead, hrest⟩ := List.pairwise_cons.1 hsorted
    have hnone : ∀ dialect, dialect.precedence < head.dialect.precedence →
        rest.filter (·.dialect = dialect) = [] := by
      intro dialect hlt
      refine List.filter_eq_nil_iff.2 fun other hother => ?_
      have hle := of_decide_eq_true (hhead other hother)
      have hne : other.dialect ≠ dialect := by
        rintro rfl
        omega
      simpa using hne
    have hih := ih hrest
    obtain ⟨dialect, offers⟩ := head
    cases dialect with
    | elementSet => simpa using hih
    | metadataElement =>
      have hset := hnone .elementSet Nat.zero_lt_one
      rw [hset, List.nil_append] at hih
      simpa [hset] using hih
    | typeRestriction =>
      have hset := hnone .elementSet Nat.zero_lt_two
      have hmeta := hnone .metadataElement Nat.one_lt_two
      rw [hset, hmeta, List.nil_append, List.nil_append] at hih
      simpa [hset, hmeta] using hih

theorem byPrecedence_eq (extractions : List Extraction) :
    byPrecedence extractions = extractions.filter (·.dialect = .elementSet)
      ++ extractions.filter (·.dialect = .metadataElement)
      ++ extractions.filter (·.dialect = .typeRestriction) := by
  have hsorted : (byPrecedence extractions).Pairwise fun a b => a.prevails b :=
    List.pairwise_mergeSort Extraction.prevails_trans Extraction.prevails_total extractions
  rw [eq_append_of_prevails hsorted, filter_byPrecedence, filter_byPrecedence,
    filter_byPrecedence]

/-! ### Merging offers -/

namespace Tables

/-- What a run of offers holds for one table. -/
def offeredIn (offers : List Offer) (table : String) : List Field :=
  (offers.filter (·.table = table)).flatMap (·.fields)

theorem mem_names_mergeOffers {tables : Tables} {offers : List Offer} {name : String} :
    name ∈ (tables.mergeOffers offers).1.names ↔
      (∃ offer ∈ offers, offer.table = name) ∨ name ∈ tables.names := by
  induction offers generalizing tables with
  | nil => simp [mergeOffers]
  | cons offer rest ih =>
    simp only [mergeOffers, ih, mem_names_offer, List.mem_cons, exists_eq_or_imp,
      @eq_comm _ name offer.table]
    rw [or_left_comm, or_assoc]

theorem fieldsOf_mergeOffers (tables : Tables) (offers : List Offer) (name : String) :
    (tables.mergeOffers offers).1.fieldsOf name = tables.fieldsOf name
      ++ Field.novel (Field.codes (tables.fieldsOf name)) (offeredIn offers name) := by
  induction offers generalizing tables with
  | nil => simp [mergeOffers, offeredIn, Field.novel]
  | cons offer rest ih =>
    simp only [mergeOffers]
    rw [ih, fieldsOf_offer]
    by_cases hname : name = offer.table
    · have hoffered : offeredIn (offer :: rest) name = offer.fields ++ offeredIn rest name := by
        simp [offeredIn, hname]
      rw [if_pos hname, hoffered, Field.novel_append, List.append_assoc]
      congr 2
      -- The codes that the first offer brought are taken, whether its fields were or not.
      refine Field.novel_congr (fun code => ?_) _
      have hnovel := @Field.mem_codes_novel (Field.codes (tables.fieldsOf name)) offer.fields code
      simp only [Field.codes, List.map_append, List.mem_append] at hnovel ⊢
      tauto
    · have hoffered : offeredIn (offer :: rest) name = offeredIn rest name := by
        simp [offeredIn, Ne.symm hname]
      rw [if_neg hname, List.append_nil, hoffered]

theorem mergeOffers_append (tables : Tables) (front back : List Offer) :
    (tables.mergeOffers (front ++ back)).1 = ((tables.mergeOffers front).1.mergeOffers back).1 := by
  induction front generalizing tables with
  | nil => rfl
  | cons offer rest ih => simp only [List.cons_append, mergeOffers, ih]

theorem mergeAll_eq (tables : Tables) (extractions : List Extraction) :
    tables.mergeAll extractions = (tables.mergeOffers (extractions.flatMap (·.offers))).1 := by
  induction extractions generalizing tables with
  | nil => rfl
  | cons extraction rest ih =>
    rw [List.flatMap_cons, mergeOffers_append, ← ih]
    rfl

/-! ### Intrinsic fields -/

theorem mem_names_offerFront_foldl {tables : Tables} {block : List Field} {targets : List String}
    {name : String} :
    name ∈ (targets.foldl (fun tables target => (tables.offerFront target block).1) tables).names ↔
      name ∈ targets ∨ name ∈ tables.names := by
  induction targets generalizing tables with
  | nil => simp
  | cons target rest ih =>
    rw [List.foldl_cons, ih, mem_names_offerFront, List.mem_cons]
    tauto

theorem fieldsOf_offerFront_foldl (tables : Tables) (block : List Field) {targets : List String}
    (hnodup : targets.Nodup) (name : String) :
    (targets.foldl (fun tables target => (tables.offerFront target block).1) tables).fieldsOf name
      = (if name ∈ targets then Field.novel (Field.codes (tables.fieldsOf name)) block else [])
        ++ tables.fieldsOf name := by
  induction targets generalizing tables with
  | nil => simp
  | cons target rest ih =>
    obtain ⟨hfresh, hrest⟩ := List.nodup_cons.1 hnodup
    rw [List.foldl_cons, ih _ hrest, fieldsOf_offerFront]
    -- No target stands twice, so a table is offered the block once at most.
    by_cases hname : name = target
    · subst hname
      simp [hfresh]
    · simp [hname]

theorem mem_names_withIntrinsics {tables : Tables} {name : String} :
    name ∈ tables.withIntrinsics.names ↔ IsBaseTable name ∨ name ∈ tables.names :=
  mem_names_offerFront_foldl

theorem codes_intrinsicFields : Field.codes intrinsicFields
    = ["idno", "preferred_labels", "type_id", "access", "status"] := rfl

theorem nodup_codes_intrinsicFields : (Field.codes intrinsicFields).Nodup := by
  decide

theorem fieldsOf_withIntrinsics (tables : Tables) (name : String) :
    tables.withIntrinsics.fieldsOf name
      = (if IsBaseTable name
          then intrinsicFields.filter (·.code ∉ Field.codes (tables.fieldsOf name)) else [])
        ++ tables.fieldsOf name := by
  simp only [isBaseTable_iff]
  rw [withIntrinsics, fieldsOf_offerFront_foldl _ _ (by decide),
    Field.novel_eq_filter nodup_codes_intrinsicFields]

end Tables

/-! ### The assembled schema -/

theorem names_empty : Tables.empty.names = [] := rfl

theorem fieldsOf_empty (name : String) : Tables.empty.fieldsOf name = [] := rfl

/-- The offers of all extractions for one table, sorted by precedence. -/
theorem offeredIn_byPrecedence (extractions : List Extraction) (table : String) :
    Tables.offeredIn ((byPrecedence extractions).flatMap (·.offers)) table
      = offeredTo extractions table := by
  have hflat : ∀ list : List Extraction, Tables.offeredIn (list.flatMap (·.offers)) table
      = list.flatMap fun extraction => Tables.offeredIn extraction.offers table := by
    intro list
    induction list with
    | nil => rfl
    | cons extraction rest ih =>
      rw [List.flatMap_cons, List.flatMap_cons, ← ih]
      simp [Tables.offeredIn]
  rw [hflat, byPrecedence_eq, List.flatMap_append, List.flatMap_append]
  rfl

theorem mem_names_assemble {extractions : List Extraction} {relationships : List Relationship}
    {vocabulary : Vocabulary} {name : String} :
    name ∈ (Schema.assemble extractions relationships vocabulary).tables.names ↔
      (∃ extraction ∈ extractions, ∃ offer ∈ extraction.offers, offer.table = name)
        ∨ IsBaseTable name := by
  have hperm := List.mergeSort_perm extractions Extraction.prevails
  rw [Schema.assemble, Tables.mem_names_withIntrinsics, Tables.mergeAll_eq,
    Tables.mem_names_mergeOffers, names_empty, or_comm]
  simp only [List.not_mem_nil, or_false, List.mem_flatMap]
  refine or_congr_left ⟨?_, ?_⟩
  · rintro ⟨offer, ⟨extraction, hmem, hoffer⟩, hname⟩
    exact ⟨extraction, hperm.mem_iff.1 hmem, offer, hoffer, hname⟩
  · rintro ⟨extraction, hmem, offer, hoffer, hname⟩
    exact ⟨offer, ⟨extraction, hperm.mem_iff.2 hmem, hoffer⟩, hname⟩

theorem fieldsOf_assemble (extractions : List Extraction) (relationships : List Relationship)
    (vocabulary : Vocabulary) (name : String) :
    let supplied := Field.firsts (offeredTo extractions name)
    (Schema.assemble extractions relationships vocabulary).tables.fieldsOf name
      = if IsBaseTable name
        then intrinsicFields.filter (·.code ∉ Field.codes supplied) ++ supplied
        else supplied := by
  intro supplied
  have hmerged : (Tables.empty.mergeAll (byPrecedence extractions)).fieldsOf name = supplied := by
    rw [Tables.mergeAll_eq, Tables.fieldsOf_mergeOffers, fieldsOf_empty, offeredIn_byPrecedence,
      List.nil_append]
    exact Field.novel_eq_firsts _
  rw [Schema.assemble, Tables.fieldsOf_withIntrinsics, hmerged]
  split
  · rfl
  · rw [List.nil_append]

/-- Whatever is offered to a table stands in an offer for it. -/
theorem mem_offeredTo {extractions : List Extraction} {table : String} {field : Field} :
    field ∈ offeredTo extractions table ↔
      ∃ extraction ∈ extractions, ∃ offer ∈ extraction.offers,
        offer.table = table ∧ field ∈ offer.fields := by
  have hby : ∀ dialect, field ∈ offeredBy dialect extractions table ↔
      ∃ extraction ∈ extractions, extraction.dialect = dialect ∧
        ∃ offer ∈ extraction.offers, offer.table = table ∧ field ∈ offer.fields := by
    intro dialect
    simp only [offeredBy, List.mem_flatMap, List.mem_filter, decide_eq_true_iff, and_assoc]
  rw [offeredTo, List.mem_append, List.mem_append, hby, hby, hby]
  constructor
  · rintro ((⟨extraction, hmem, -, h⟩ | ⟨extraction, hmem, -, h⟩) | ⟨extraction, hmem, -, h⟩)
    all_goals exact ⟨extraction, hmem, h⟩
  · rintro ⟨extraction, hmem, h⟩
    cases hdialect : extraction.dialect with
    | elementSet => exact .inl (.inl ⟨extraction, hmem, hdialect, h⟩)
    | metadataElement => exact .inl (.inr ⟨extraction, hmem, hdialect, h⟩)
    | typeRestriction => exact .inr ⟨extraction, hmem, hdialect, h⟩

/-- Some offer for the table holds a field of the code. -/
def Offered (offers : List Offer) (table code : String) : Prop :=
  ∃ offer ∈ offers, offer.table = table ∧ ∃ field ∈ offer.fields, field.code = code

theorem mem_codes_offeredTo {extractions : List Extraction} {table code : String} :
    code ∈ Field.codes (offeredTo extractions table) ↔
      ∃ extraction ∈ extractions, Offered extraction.offers table code := by
  simp only [Field.mem_codes_iff, mem_offeredTo, Offered]
  constructor
  · rintro ⟨field, ⟨extraction, hmem, offer, hoffer, htable, hfield⟩, hcode⟩
    exact ⟨extraction, hmem, offer, hoffer, htable, field, hfield, hcode⟩
  · rintro ⟨extraction, hmem, offer, hoffer, htable, field, hfield, hcode⟩
    exact ⟨field, ⟨extraction, hmem, offer, hoffer, htable, hfield⟩, hcode⟩

/-- A table has the codes that it is offered, and a base table the intrinsic ones. -/
theorem mem_codes_assemble {extractions : List Extraction} {relationships : List Relationship}
    {vocabulary : Vocabulary} {table code : String} :
    code ∈ Field.codes
        ((Schema.assemble extractions relationships vocabulary).tables.fieldsOf table) ↔
      (IsBaseTable table ∧ code ∈ Field.codes intrinsicFields) ∨
        ∃ extraction ∈ extractions, Offered extraction.offers table code := by
  have hfields := fieldsOf_assemble extractions relationships vocabulary table
  rw [hfields, ← mem_codes_offeredTo]
  split
  · next hbase =>
    simp only [hbase, true_and]
    rw [Field.codes_append, List.mem_append, Field.mem_codes_firsts,
      ← Field.novel_eq_filter Tables.nodup_codes_intrinsicFields, Field.mem_codes_novel,
      Field.mem_codes_firsts]
    tauto
  · next hbase => simp only [hbase, false_and, false_or, Field.mem_codes_firsts]

/-- A field of an assembled schema is intrinsic or comes from an offer for its table. -/
theorem mem_fields_assemble {extractions : List Extraction} {relationships : List Relationship}
    {vocabulary : Vocabulary} {table : String} {field : Field}
    (h : field ∈ (Schema.assemble extractions relationships vocabulary).tables.fieldsOf table) :
    field ∈ intrinsicFields ∨ ∃ extraction ∈ extractions, ∃ offer ∈ extraction.offers,
      offer.table = table ∧ field ∈ offer.fields := by
  have hfields := fieldsOf_assemble extractions relationships vocabulary table
  have hsub := Field.firsts_sublist (offeredTo extractions table)
  rw [hfields] at h
  rw [← mem_offeredTo]
  split at h
  · rcases List.mem_append.1 h with h | h
    · exact .inl (List.mem_filter.1 h).1
    · exact .inr (hsub.subset h)
  · exact .inr (hsub.subset h)

theorem nodup_codes_assemble (extractions : List Extraction) (relationships : List Relationship)
    (vocabulary : Vocabulary) (table : String) :
    (Field.codes
      ((Schema.assemble extractions relationships vocabulary).tables.fieldsOf table)).Nodup := by
  have hfields := fieldsOf_assemble extractions relationships vocabulary table
  have hsupplied := Field.nodup_codes_firsts (offeredTo extractions table)
  rw [hfields]
  split
  · rw [Field.codes_append]
    refine List.nodup_append'.2 ⟨?_, hsupplied, ?_⟩
    · exact Tables.nodup_codes_intrinsicFields.sublist (List.filter_sublist.map _)
    · intro code hcode
      obtain ⟨field, hfield, rfl⟩ := Field.mem_codes_iff.1 hcode
      simpa using (List.mem_filter.1 hfield).2
  · exact hsupplied

theorem isAssembly_assemble (extractions : List Extraction) (relationships : List Relationship)
    (vocabulary : Vocabulary) :
    IsAssembly extractions relationships vocabulary
      (Schema.assemble extractions relationships vocabulary) where
  names _ := mem_names_assemble
  fields table hmem := by
    rw [← Tables.fieldsOf_of_mem hmem]
    exact fieldsOf_assemble extractions relationships vocabulary table.name
  relationships := rfl
  vocabulary := rfl

/-- The description leaves no choice. -/
theorem IsAssembly.unique {extractions : List Extraction} {relationships : List Relationship}
    {vocabulary : Vocabulary} {schema schema' : Schema}
    (h : IsAssembly extractions relationships vocabulary schema)
    (h' : IsAssembly extractions relationships vocabulary schema') : schema = schema' := by
  have htables : schema.tables = schema'.tables := by
    have hnames : ∀ name, name ∈ schema.tables.names ↔ name ∈ schema'.tables.names := fun name =>
      (h.names name).trans (h'.names name).symm
    refine Tables.ext_fieldsOf hnames fun name => ?_
    by_cases hmem : name ∈ schema.tables.names
    · obtain ⟨table, htable, rfl⟩ := Tables.mem_names_iff.1 hmem
      obtain ⟨other, hother, hname⟩ := Tables.mem_names_iff.1 ((hnames _).1 hmem)
      have hfields := h'.fields other hother
      rw [hname] at hfields
      rw [Tables.fieldsOf_of_mem htable, ← hname, Tables.fieldsOf_of_mem hother, hfields,
        h.fields table htable]
    · rw [Tables.fieldsOf_of_not_mem hmem,
        Tables.fieldsOf_of_not_mem fun hmem' => hmem ((hnames name).2 hmem')]
  cases schema
  cases schema'
  obtain rfl := h.relationships
  obtain rfl := h.vocabulary
  obtain rfl := h'.relationships
  obtain rfl := h'.vocabulary
  simpa using htables

/-- Only the runs of the dialects count. -/
theorem IsAssembly.reorder {extractions reordered : List Extraction}
    {relationships : List Relationship} {vocabulary : Vocabulary} {schema : Schema}
    (h : IsAssembly extractions relationships vocabulary schema)
    (hruns : ∀ dialect, reordered.filter (·.dialect = dialect)
      = extractions.filter (·.dialect = dialect)) :
    IsAssembly reordered relationships vocabulary schema := by
  have hmem : ∀ extraction, extraction ∈ reordered ↔ extraction ∈ extractions := by
    intro extraction
    have hrun : extraction ∈ reordered.filter (·.dialect = extraction.dialect) ↔
        extraction ∈ extractions.filter (·.dialect = extraction.dialect) := by
      rw [hruns]
    simpa using hrun
  have hoffered : ∀ table, offeredTo reordered table = offeredTo extractions table := by
    intro table
    simp only [offeredTo, offeredBy, hruns]
  refine ⟨fun name => ?_, fun table htable => ?_, h.relationships, h.vocabulary⟩
  · simp only [hmem]
    exact h.names name
  · rw [hoffered]
    exact h.fields table htable

/-- The assembled schema is the one that `IsAssembly` describes, and it is the same for every order
of the extractions in which those of one dialect follow each other alike. -/
theorem assemble_exact (extractions : List Extraction) (relationships : List Relationship)
    (vocabulary : Vocabulary) :
    (∀ schema, schema = Schema.assemble extractions relationships vocabulary ↔
      IsAssembly extractions relationships vocabulary schema) ∧
    Field.codes intrinsicFields = ["idno", "preferred_labels", "type_id", "access", "status"] ∧
    ∀ reordered : List Extraction,
      (∀ dialect, reordered.filter (·.dialect = dialect)
        = extractions.filter (·.dialect = dialect)) →
      Schema.assemble reordered relationships vocabulary
        = Schema.assemble extractions relationships vocabulary := by
  have hself := isAssembly_assemble extractions relationships vocabulary
  refine ⟨fun schema => ⟨?_, fun h => h.unique hself⟩, Tables.codes_intrinsicFields,
    fun reordered hruns => ?_⟩
  · rintro rfl
    exact hself
  · have hreordered := isAssembly_assemble reordered relationships vocabulary
    exact hreordered.unique (hself.reorder hruns)

/-- The three dialects offer a field of one code to one table, in two orders. -/
theorem assemble_exact_reversed :
    let offer (label : String) : List Offer := [⟨"ca_objects", [.declare "x" "Text" label ""]⟩]
    let extractions : List Extraction := [⟨.elementSet, offer "Old"⟩,
      ⟨.metadataElement, offer "Middle"⟩, ⟨.typeRestriction, offer "New"⟩]
    (∀ dialect, extractions.reverse.filter (·.dialect = dialect)
      = extractions.filter (·.dialect = dialect)) ∧
    Schema.assemble extractions.reverse [] {} = Schema.assemble extractions [] {} := by
  intro offer extractions
  have hruns : ∀ dialect, extractions.reverse.filter (·.dialect = dialect)
      = extractions.filter (·.dialect = dialect) := by
    intro dialect
    cases dialect <;> rfl
  exact ⟨hruns, (assemble_exact extractions [] {}).2.2 _ hruns⟩

end CollectionProfile
