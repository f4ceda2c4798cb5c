import CollectionProfile.Proofs.Profile.Assembly
import Mathlib.Algebra.Ring.Nat
import Mathlib.Data.Finset.Card

/-!
# What merging adds

Merging only ever adds: whatever tables there are, the fields of each stay in front of the new ones,
and the number that a merge returns is that of the new pairs of a table and a code (`IsMerge`). The
set of pairs is therefore the same in whatever order extractions are merged, although the fields
that win are not (`merge_grows`).
-/

namespace CollectionProfile

/-- The pairs of a table and a code that are offered. -/
def offeredPairs (offers : List Offer) : Finset (String × String) :=
  (offers.flatMap fun offer => offer.fields.map fun field => (offer.table, field.code)).toFinset

namespace Tables

/-- The pairs of a table and a code that the tables hold. -/
def pairs (tables : Tables) : Finset (String × String) :=
  (tables.toList.flatMap fun table => table.fields.map fun field => (table.name, field.code)).toFinset

/-- What merging several extractions one after the other returns each time. -/
def mergeCounts (tables : Tables) : List Extraction → List Nat
  | [] => []
  | extraction :: rest =>
    let (tables, taken) := tables.merge extraction
    taken :: tables.mergeCounts rest

/-- What it means to have merged an extraction into the tables, with `taken` of its fields. -/
structure IsMerge (tables : Tables) (extraction : Extraction) (merged : Tables) (taken : Nat) :
    Prop where
  kept : ∀ table ∈ tables.toList, ∃ more, ⟨table.name, table.fields ++ more⟩ ∈ merged.toList
  grown : merged.fieldCount = tables.fieldCount + taken
  counted : taken = (offeredPairs extraction.offers \ tables.pairs).card
  /-- Merged again, whatever was merged meanwhile, the extraction adds nothing. -/
  settled : ∀ later : List Extraction,
    (merged.mergeAll later).merge extraction = (merged.mergeAll later, 0)

theorem mem_pairs_iff {tables : Tables} {name code : String} :
    (name, code) ∈ tables.pairs ↔ code ∈ Field.codes (tables.fieldsOf name) := by
  rw [mem_codes_fieldsOf_iff]
  simp only [pairs, List.mem_toFinset, List.mem_flatMap, List.mem_map, Prod.mk.injEq]
  constructor
  · rintro ⟨table, htable, field, hfield, hname, hcode⟩
    exact ⟨table, htable, hname, field, hfield, hcode⟩
  · rintro ⟨table, htable, hname, field, hfield, hcode⟩
    exact ⟨table, htable, field, hfield, hname, hcode⟩

theorem mem_offeredPairs_iff {offers : List Offer} {name code : String} :
    (name, code) ∈ offeredPairs offers ↔ code ∈ Field.codes (offeredIn offers name) := by
  rw [Field.mem_codes_iff]
  simp only [offeredPairs, offeredIn, List.mem_toFinset, List.mem_flatMap, List.mem_map,
    List.mem_filter, decide_eq_true_iff, Prod.mk.injEq]
  constructor
  · rintro ⟨offer, hoffer, field, hfield, hname, hcode⟩
    exact ⟨field, ⟨offer, ⟨hoffer, hname⟩, hfield⟩, hcode⟩
  · rintro ⟨field, ⟨offer, ⟨hoffer, hname⟩, hfield⟩, hcode⟩
    exact ⟨offer, hoffer, field, hfield, hname, hcode⟩

/-! ### One offer -/

theorem length_adjust_append (name : String) (more : List Field) (list : List Table) :
    ((adjust name (· ++ more) list).flatMap (·.fields)).length
      = (list.flatMap (·.fields)).length + more.length := by
  induction list with
  | nil => simp [adjust]
  | cons table rest ih =>
    unfold adjust
    split
    · simp only [List.flatMap_cons, List.length_append]
      omega
    · split
      · simp only [List.flatMap_cons, List.length_append, List.nil_append]
        omega
      · simp only [List.flatMap_cons, List.length_append, ih]
        omega

theorem fieldCount_offer (tables : Tables) (name : String) (fields : List Field) :
    (tables.offer name fields).1.fieldCount
      = tables.fieldCount + (tables.offer name fields).2 :=
  length_adjust_append name _ tables.toList

theorem count_offer (tables : Tables) (offer : Offer) :
    (tables.offer offer.table offer.fields).2
      = (offeredPairs [offer] \ tables.pairs).card := by
  let taken := Field.codes (tables.fieldsOf offer.table)
  let added := (Field.codes (Field.novel taken offer.fields)).map fun code => (offer.table, code)
  -- The codes that are taken are distinct, so counting fields is counting pairs.
  have hdistinct : added.Nodup := by
    apply (Field.nodup_codes_novel taken offer.fields).map
    intro code code' h
    exact (Prod.mk.inj h).2
  have hadded : offeredPairs [offer] \ tables.pairs = added.toFinset := by
    ext ⟨name, code⟩
    rw [Finset.mem_sdiff, mem_offeredPairs_iff, mem_pairs_iff, List.mem_toFinset, List.mem_map]
    simp only [Prod.mk.injEq, Field.mem_codes_novel]
    by_cases hname : name = offer.table
    · subst hname
      simp [offeredIn, taken]
    · simp [offeredIn, Field.codes, Ne.symm hname]
  rw [hadded, List.toFinset_card_of_nodup hdistinct, List.length_map, Field.codes, List.length_map]
  rfl

/-! ### A run of offers -/

theorem pairs_mergeOffers (tables : Tables) (offers : List Offer) :
    (tables.mergeOffers offers).1.pairs = tables.pairs ∪ offeredPairs offers := by
  ext ⟨name, code⟩
  rw [Finset.mem_union, mem_pairs_iff, mem_pairs_iff, mem_offeredPairs_iff, fieldsOf_mergeOffers,
    Field.codes_append, List.mem_append, Field.mem_codes_novel]
  tauto

theorem fieldCount_mergeOffers (tables : Tables) (offers : List Offer) :
    (tables.mergeOffers offers).1.fieldCount
      = tables.fieldCount + (tables.mergeOffers offers).2 := by
  induction offers generalizing tables with
  | nil => rfl
  | cons offer rest ih =>
    simp only [mergeOffers]
    rw [ih, fieldCount_offer, Nat.add_assoc]

theorem count_mergeOffers (tables : Tables) (offers : List Offer) :
    (tables.mergeOffers offers).2 = (offeredPairs offers \ tables.pairs).card := by
  induction offers generalizing tables with
  | nil => simp [mergeOffers, offeredPairs]
  | cons offer rest ih =>
    have hpairs : (tables.offer offer.table offer.fields).1.pairs
        = tables.pairs ∪ offeredPairs [offer] := pairs_mergeOffers tables [offer]
    have hoffers : offeredPairs (offer :: rest) = offeredPairs [offer] ∪ offeredPairs rest := by
      simp [offeredPairs]
    -- A pair that the first offer brings is not counted again for the others.
    have hparts : offeredPairs (offer :: rest) \ tables.pairs
        = (offeredPairs [offer] \ tables.pairs)
          ∪ (offeredPairs rest \ (tables.pairs ∪ offeredPairs [offer])) := by
      ext pair
      rw [hoffers]
      simp only [Finset.mem_sdiff, Finset.mem_union]
      tauto
    have hdisjoint : Disjoint (offeredPairs [offer] \ tables.pairs)
        (offeredPairs rest \ (tables.pairs ∪ offeredPairs [offer])) := by
      apply Finset.disjoint_left.2
      intro pair hfirst hrest
      exact (Finset.mem_sdiff.1 hrest).2 (Finset.mem_union_right _ (Finset.mem_sdiff.1 hfirst).1)
    simp only [mergeOffers]
    rw [ih, count_offer, hpairs, hparts, Finset.card_union_of_disjoint hdisjoint]

/-- Offers change nothing where their tables and pairs are there already. -/
theorem mergeOffers_eq_self {tables : Tables} {offers : List Offer}
    (hnames : ∀ offer ∈ offers, offer.table ∈ tables.names)
    (hpairs : offeredPairs offers ⊆ tables.pairs) : tables.mergeOffers offers = (tables, 0) := by
  have hcount : (tables.mergeOffers offers).2 = 0 := by
    rw [count_mergeOffers, Finset.sdiff_eq_empty_iff_subset.2 hpairs, Finset.card_empty]
  have hsame : (tables.mergeOffers offers).1 = tables := by
    apply ext_fieldsOf
    · intro name
      rw [mem_names_mergeOffers]
      constructor
      · rintro (⟨offer, hoffer, rfl⟩ | hname)
        · exact hnames offer hoffer
        · exact hname
      · exact .inr
    · intro name
      have hnone : Field.novel (Field.codes (tables.fieldsOf name)) (offeredIn offers name) = [] := by
        apply Field.novel_eq_nil
        intro code hoffered
        exact mem_pairs_iff.1 (hpairs (mem_offeredPairs_iff.2 hoffered))
      rw [fieldsOf_mergeOffers, hnone, List.append_nil]
  exact Prod.ext hsame hcount

/-! ### Extractions -/

theorem exists_append_of_mem {tables : Tables} {table : Table} (h : table ∈ tables.toList)
    (offers : List Offer) :
    ∃ more, ⟨table.name, table.fields ++ more⟩ ∈ (tables.mergeOffers offers).1.toList := by
  have hname : table.name ∈ (tables.mergeOffers offers).1.names :=
    mem_names_mergeOffers.2 (.inr (mem_names_iff.2 ⟨table, h, rfl⟩))
  obtain ⟨⟨name, fields⟩, hmerged, rfl⟩ := mem_names_iff.1 hname
  have hfields := fieldsOf_mergeOffers tables offers table.name
  rw [fieldsOf_of_mem h, fieldsOf_of_mem hmerged] at hfields
  obtain rfl := hfields
  exact ⟨_, hmerged⟩

theorem fieldCount_mergeAll (tables : Tables) (extractions : List Extraction) :
    (tables.mergeAll extractions).fieldCount
      = tables.fieldCount + (tables.mergeCounts extractions).sum := by
  induction extractions generalizing tables with
  | nil => rfl
  | cons extraction rest ih =>
    have hmerge : (tables.merge extraction).1.fieldCount
        = tables.fieldCount + (tables.merge extraction).2 :=
      fieldCount_mergeOffers tables extraction.offers
    rw [mergeCounts, List.sum_cons, ← Nat.add_assoc, ← hmerge]
    exact ih _

theorem sum_mergeCounts (tables : Tables) (extractions : List Extraction) :
    (tables.mergeCounts extractions).sum
      = (offeredPairs (extractions.flatMap (·.offers)) \ tables.pairs).card := by
  have hsteps := fieldCount_mergeAll tables extractions
  have hwhole := fieldCount_mergeOffers tables (extractions.flatMap (·.offers))
  rw [mergeAll_eq] at hsteps
  rw [← count_mergeOffers]
  omega

theorem offeredPairs_perm {extractions reordered : List Extraction}
    (h : extractions.Perm reordered) :
    offeredPairs (extractions.flatMap (·.offers)) = offeredPairs (reordered.flatMap (·.offers)) :=
  List.toFinset_eq_of_perm _ _ ((h.flatMap_right _).flatMap_right _)

theorem isMerge_merge (tables : Tables) (extraction : Extraction) :
    IsMerge tables extraction (tables.merge extraction).1 (tables.merge extraction).2 := by
  constructor
  case kept =>
    intro table htable
    exact exists_append_of_mem htable extraction.offers
  case grown => exact fieldCount_mergeOffers tables extraction.offers
  case counted => exact count_mergeOffers tables extraction.offers
  case settled =>
    intro later
    apply mergeOffers_eq_self
    · intro offer hoffer
      rw [mergeAll_eq, mem_names_mergeOffers, merge, mem_names_mergeOffers]
      exact .inr (.inl ⟨offer, hoffer, rfl⟩)
    · rw [mergeAll_eq, pairs_mergeOffers, merge, pairs_mergeOffers, Finset.union_assoc]
      exact Finset.subset_union_right.trans' Finset.subset_union_left

/-- Merging keeps what is there and adds the pairs that are new, and it does not matter in which
order several extractions are merged for which pairs there are in the end and how many fields were
taken altogether. -/
theorem merge_grows (tables : Tables) :
    (∀ extraction, IsMerge tables extraction (tables.merge extraction).1
      (tables.merge extraction).2) ∧
    ∀ extractions reordered : List Extraction, extractions.Perm reordered →
      (tables.mergeAll extractions).pairs = (tables.mergeAll reordered).pairs ∧
        (tables.mergeCounts extractions).sum = (tables.mergeCounts reordered).sum := by
  refine ⟨isMerge_merge tables, fun extractions reordered hperm => ?_⟩
  have hoffered := offeredPairs_perm hperm
  constructor
  · rw [mergeAll_eq, mergeAll_eq, pairs_mergeOffers, pairs_mergeOffers, hoffered]
  · rw [sum_mergeCounts, sum_mergeCounts, hoffered]

/-- Two extractions that offer one code to one table, and the second one more. The order decides
which field wins and what each merge returns, but not what the two return together. -/
theorem merge_grows_reordered :
    let first : Extraction := ⟨.elementSet, [⟨"t", [.declare "x" "Text" "Old" ""]⟩,
      ⟨"t", [.declare "x" "Text" "Older" ""]⟩]⟩
    let second : Extraction := ⟨.metadataElement, [⟨"t", [.declare "y" "Text" "" "",
      .declare "x" "Text" "New" ""]⟩]⟩
    [first, second].Perm [second, first] ∧
      (empty.mergeAll [first, second]).pairs = (empty.mergeAll [second, first]).pairs ∧
      (empty.mergeCounts [first, second]).sum = (empty.mergeCounts [second, first]).sum ∧
      empty.mergeCounts [first, second] = [1, 1] ∧ empty.mergeCounts [second, first] = [2, 0] ∧
      empty.mergeAll [first, second] ≠ empty.mergeAll [second, first] := by
  intro first second
  have hperm : [first, second].Perm [second, first] := .swap _ _ _
  obtain ⟨hpairs, hsum⟩ := (merge_grows empty).2 _ _ hperm
  exact ⟨hperm, hpairs, hsum, by decide +kernel, by decide +kernel, by decide +kernel⟩

end Tables

end CollectionProfile
