import CollectionProfile.Schema.Field
import Mathlib.Data.List.Basic
import Mathlib.Data.List.Induction

/-!
# Runs of fields without repeated codes

What `Field.novel` takes of a run: its codes (`mem_codes_novel`), how it goes through a run in two
steps (`novel_append`), and the same run told by positions (`novel_eq_firsts`): a field stays unless
its code occurs at an earlier position.
-/

namespace CollectionProfile.Field

/-- The codes of a run of fields. -/
def codes (fields : List Field) : List String := fields.map (·.code)

/-- The fields of a run whose code does not occur earlier in it. -/
def firsts (fields : List Field) : List Field :=
  fields.zipIdx.filterMap fun (field, i) =>
    if field.code ∈ codes (fields.take i) then none else some field

theorem mem_codes_iff {fields : List Field} {code : String} :
    code ∈ codes fields ↔ ∃ field ∈ fields, field.code = code :=
  List.mem_map

theorem codes_append (front back : List Field) :
    codes (front ++ back) = codes front ++ codes back :=
  List.map_append

theorem mem_codes_novel {taken : List String} {fields : List Field} {code : String} :
    code ∈ codes (novel taken fields) ↔ code ∈ codes fields ∧ code ∉ taken := by
  induction fields generalizing taken with
  | nil => simp [novel, codes]
  | cons field rest ih =>
    simp only [codes] at ih
    by_cases hc : field.code ∈ taken
    · simp only [novel, hc, if_true, codes, List.map_cons, List.mem_cons, ih]
      constructor
      · rintro ⟨hr, hn⟩
        exact ⟨.inr hr, hn⟩
      · rintro ⟨rfl | hr, hn⟩
        · exact absurd hc hn
        · exact ⟨hr, hn⟩
    · simp only [novel, hc, if_false, codes, List.map_cons, List.mem_cons, ih, not_or]
      constructor
      · rintro (rfl | ⟨hr, -, hn⟩)
        · exact ⟨.inl rfl, hc⟩
        · exact ⟨.inr hr, hn⟩
      · rintro ⟨rfl | hr, hn⟩
        · exact .inl rfl
        · by_cases he : code = field.code
          · exact .inl he
          · exact .inr ⟨hr, he, hn⟩

/-- Only which codes are taken counts, not their order or number. -/
theorem novel_congr {taken taken' : List String} (h : ∀ code, code ∈ taken ↔ code ∈ taken')
    (fields : List Field) : novel taken fields = novel taken' fields := by
  induction fields generalizing taken taken' with
  | nil => rfl
  | cons field rest ih =>
    by_cases hc : field.code ∈ taken
    · rw [novel, novel, if_pos hc, if_pos ((h _).1 hc), ih h]
    · rw [novel, novel, if_neg hc, if_neg (fun hc' => hc ((h _).2 hc')), ih]
      intro code
      rw [List.mem_cons, List.mem_cons, h]

/-- After a first part, its codes are taken too. -/
theorem novel_append (taken : List String) (front back : List Field) :
    novel taken (front ++ back) = novel taken front ++ novel (taken ++ codes front) back := by
  induction front generalizing taken with
  | nil => simp [novel, codes]
  | cons field rest ih =>
    by_cases hc : field.code ∈ taken
    · rw [List.cons_append, novel, if_pos hc, ih, novel, if_pos hc]
      congr 1
      refine novel_congr (fun code => ?_) _
      simp only [codes, List.map_cons, List.mem_append, List.mem_cons]
      constructor
      · rintro (ht | hr)
        · exact .inl ht
        · exact .inr (.inr hr)
      · rintro (ht | rfl | hr)
        · exact .inl ht
        · exact .inl hc
        · exact .inr hr
    · rw [List.cons_append, novel, if_neg hc, ih, novel, if_neg hc, List.cons_append]
      congr 2
      refine novel_congr (fun code => ?_) _
      simp only [codes, List.map_cons, List.mem_append, List.mem_cons]
      tauto

theorem nodup_codes_novel (taken : List String) (fields : List Field) :
    (codes (novel taken fields)).Nodup := by
  induction fields generalizing taken with
  | nil => simp [novel, codes]
  | cons field rest ih =>
    by_cases hc : field.code ∈ taken
    · rw [novel, if_pos hc]
      exact ih taken
    · rw [novel, if_neg hc]
      refine List.nodup_cons.2 ⟨fun hmem => ?_, ih _⟩
      exact (mem_codes_novel.1 hmem).2 List.mem_cons_self

theorem novel_sublist (taken : List String) (fields : List Field) :
    (novel taken fields).Sublist fields := by
  induction fields generalizing taken with
  | nil => exact .slnil
  | cons field rest ih =>
    by_cases hc : field.code ∈ taken
    · rw [novel, if_pos hc]
      exact (ih taken).cons field
    · rw [novel, if_neg hc]
      exact (ih _).cons_cons field

/-- A run without repeated codes loses only what is taken. -/
theorem novel_eq_filter {taken : List String} {fields : List Field} (h : (codes fields).Nodup) :
    novel taken fields = fields.filter (·.code ∉ taken) := by
  induction fields generalizing taken with
  | nil => rfl
  | cons field rest ih =>
    obtain ⟨hfresh, hrest⟩ := List.nodup_cons.1 h
    by_cases hc : field.code ∈ taken
    · rw [novel, if_pos hc, ih hrest, List.filter_cons_of_neg (by simpa using hc)]
    · rw [novel, if_neg hc, ih hrest, List.filter_cons_of_pos (by simpa using hc)]
      congr 1
      refine List.filter_congr fun other hother => ?_
      have hne : other.code ≠ field.code := fun he =>
        hfresh (List.mem_map.2 ⟨other, hother, he⟩)
      simp [hne]

theorem firsts_append_singleton (fields : List Field) (field : Field) :
    firsts (fields ++ [field])
      = firsts fields ++ if field.code ∈ codes fields then [] else [field] := by
  unfold firsts
  rw [List.zipIdx_append, List.filterMap_append]
  congr 1
  · refine List.filterMap_congr fun ⟨other, i⟩ hmem => ?_
    have hi : i < fields.length := by
      simpa using (List.mem_zipIdx hmem).2.1
    simp only [List.take_append_of_le_length (Nat.le_of_lt hi)]
  · by_cases hc : field.code ∈ codes fields <;> simp [hc]

/-- Taking fields one after another keeps those whose code does not occur at an earlier position. -/
theorem novel_eq_firsts (fields : List Field) : novel [] fields = firsts fields := by
  induction fields using List.reverseRecOn with
  | nil => rfl
  | append_singleton fields field ih =>
    rw [firsts_append_singleton, novel_append, ih, List.nil_append]
    by_cases hc : field.code ∈ codes fields <;> simp [novel, hc]

/-- What is taken of a run is what occurs in it first, without what was taken before. -/
theorem novel_eq_filter_firsts (taken : List String) (fields : List Field) :
    novel taken fields = (firsts fields).filter (·.code ∉ taken) := by
  induction fields using List.reverseRecOn with
  | nil => rfl
  | append_singleton fields field ih =>
    rw [novel_append, ih, firsts_append_singleton, List.filter_append]
    congr 1
    by_cases hc : field.code ∈ codes fields
    · simp [novel, hc]
    · by_cases ht : field.code ∈ taken <;> simp [novel, hc, ht]

/-- Nothing is taken of a run whose codes are all taken before. -/
theorem novel_eq_nil {taken : List String} {fields : List Field}
    (h : ∀ code ∈ codes fields, code ∈ taken) : novel taken fields = [] := by
  refine List.eq_nil_iff_forall_not_mem.2 fun field hfield => ?_
  obtain ⟨hmem, hnew⟩ := mem_codes_novel.1 (mem_codes_iff.2 ⟨field, hfield, rfl⟩)
  exact hnew (h _ hmem)

theorem find?_eq_none_iff {fields : List Field} {code : String} :
    fields.find? (·.code = code) = none ↔ code ∉ codes fields := by
  simp [codes]

/-- Under a code that was not taken before, what is taken of a run begins with the same field. -/
theorem find?_novel {taken : List String} {code : String} (h : code ∉ taken)
    (fields : List Field) :
    (novel taken fields).find? (·.code = code) = fields.find? (·.code = code) := by
  induction fields generalizing taken with
  | nil => rfl
  | cons field rest ih =>
    by_cases hcode : field.code = code
    · have hc : field.code ∉ taken := hcode ▸ h
      rw [novel, if_neg hc, List.find?_cons_of_pos (by simpa using hcode),
        List.find?_cons_of_pos (by simpa using hcode)]
    · rw [List.find?_cons_of_neg (by simpa using hcode)]
      by_cases hc : field.code ∈ taken
      · rw [novel, if_pos hc, ih h]
      · have hrest : code ∉ field.code :: taken := by simp [h, Ne.symm hcode]
        rw [novel, if_neg hc, List.find?_cons_of_neg (by simpa using hcode), ih hrest]

theorem firsts_sublist (fields : List Field) : (firsts fields).Sublist fields := by
  rw [← novel_eq_firsts]
  exact novel_sublist [] fields

theorem nodup_codes_firsts (fields : List Field) : (codes (firsts fields)).Nodup := by
  rw [← novel_eq_firsts]
  exact nodup_codes_novel [] fields

theorem mem_codes_firsts {fields : List Field} {code : String} :
    code ∈ codes (firsts fields) ↔ code ∈ codes fields := by
  rw [← novel_eq_firsts, mem_codes_novel]
  simp

end CollectionProfile.Field
