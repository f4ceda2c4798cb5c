import CollectionProfile.Proofs.Command.Delivery
import CollectionProfile.Proofs.Delivery.Batch
import CollectionProfile.Proofs.Profile.Declared

/-!
# Artifacts of all tables in one directory

The artifacts of all tables have different file names, since the tables have different names. That
does not keep them apart on a disk: the name of a table is taken into the file name as it is, and
where it holds slashes another name can lead to the same file (`document_lost_same_file`). A name
without slashes is the last part of its path, and the path leads to a place of that name
(`getLast?_of_place`), so such names do keep artifacts apart.
-/

namespace CollectionProfile

namespace Disk

open Markup (bind_eq_ok_iff)

/-- The parts of a text between slashes. -/
def cut (text : List Char) : List (List Char) :=
  text.foldr (fun c parts =>
    match parts with
    | [] => [[c]]
    | part :: rest => if c = '/' then [] :: part :: rest else (c :: part) :: rest) [[]]

theorem parts_eq (path : String) : parts path = (cut path.toList).map String.ofList := rfl

theorem cut_cons {c : Char} {rest part : List Char} {more : List (List Char)}
    (h : cut rest = part :: more) :
    cut (c :: rest) = if c = '/' then [] :: part :: more else (c :: part) :: more := by
  rw [cut, List.foldr_cons, ← cut, h]

theorem exists_cut_eq_cons (text : List Char) : ∃ part more, cut text = part :: more := by
  induction text with
  | nil => exact ⟨[], [], rfl⟩
  | cons c rest ih =>
    obtain ⟨part, more, h⟩ := ih
    rw [cut_cons h]
    split
    · exact ⟨_, _, rfl⟩
    · exact ⟨_, _, rfl⟩

theorem cut_of_not_mem {name : List Char} (h : '/' ∉ name) : cut name = [name] := by
  induction name with
  | nil => rfl
  | cons c rest ih =>
    obtain ⟨hc, hrest⟩ := not_or.1 (mt List.mem_cons.2 h)
    rw [cut_cons (ih hrest), if_neg (Ne.symm hc)]

/-- A slash parts what stands before it from what stands after it. -/
theorem cut_append_slash (front back : List Char) :
    cut (front ++ '/' :: back) = cut front ++ cut back := by
  induction front with
  | nil =>
    obtain ⟨part, more, h⟩ := exists_cut_eq_cons back
    rw [List.nil_append, cut_cons h, if_pos rfl, h]
    rfl
  | cons c rest ih =>
    obtain ⟨part, more, h⟩ := exists_cut_eq_cons rest
    rw [h, List.cons_append] at ih
    rw [List.cons_append, cut_cons ih, cut_cons h]
    split
    · rfl
    · rfl

theorem toList_join (directory name : String) :
    (join directory name).toList = name.toList ∨
      ∃ front, (join directory name).toList = front ++ '/' :: name.toList := by
  unfold join
  split
  · exact .inl rfl
  · split
    · next hslash =>
      obtain ⟨front, hfront⟩ := List.getLast?_eq_some_iff.1 hslash
      exact .inr ⟨front, by simp [hfront]⟩
    · exact .inr ⟨directory.toList, by simp⟩

/-- A name without slashes is the last part of its path in a directory. -/
theorem getLast?_parts_join (directory : String) {name : String} (h : '/' ∉ name.toList) :
    (parts (join directory name)).getLast? = some name := by
  have hname := cut_of_not_mem h
  rw [parts_eq]
  rcases toList_join directory name with hjoin | ⟨front, hjoin⟩
  · rw [hjoin, hname]
    simp
  · rw [hjoin, cut_append_slash, hname]
    simp

variable {disk after : Disk} {directory : String}

theorem getLast?_of_place {path name : String} {place : EntryPath}
    (hparts : (parts path).getLast? = some name) (hplace : disk.place path = .ok place) :
    place.getLast? = some name := by
  rw [place_eq] at hplace
  obtain ⟨usable, husable, hplace⟩ := bind_eq_ok_iff.1 hplace
  obtain ⟨front, last, around, rfl, -, -, -, rfl⟩ := placeOf_eq_ok_iff.1 hplace
  have hlast : (front ++ [last]).getLast? = some name := by
    unfold usableParts at husable
    split at husable
    · cases husable
    · split at husable
      · cases husable
      · rw [← Except.ok.inj husable]
        split
        · exact hparts
        · rw [List.getLast?_append, hparts]
          rfl
  rw [List.getLast?_concat] at hlast ⊢
  exact hlast

/-- Names without slashes lead to different places in one directory. -/
theorem eq_of_samePlace {name other : String} (hname : '/' ∉ name.toList)
    (hother : '/' ∉ other.toList)
    (h : disk.SamePlace (join directory name) (join directory other)) : name = other := by
  obtain ⟨place, hplace, hsame⟩ := h
  have hlast := getLast?_of_place (getLast?_parts_join directory hname) hplace
  rw [getLast?_of_place (getLast?_parts_join directory hother) hsame] at hlast
  exact (Option.some.inj hlast).symm

end Disk

/-! ### Batches -/

/-- How the artifacts of all tables of a schema keep apart. What is delivered may be only the front
of them, where one cannot be written. -/
structure KeepsApart (schema : Schema) (batch : List Artifact) : Prop where
  fileNames : (batch.map (·.fileName)).Nodup
  /-- An artifact is overwritten only where another one goes to the same file by another name. -/
  overwritten : ∀ directory before after delivered, delivered <+: batch →
    Disk.deliverAll directory before delivered = .ok after → ∀ artifact ∈ delivered,
      after.read (artifact.pathIn directory) ≠ .ok artifact.bytes →
        ∃ other ∈ delivered, other.fileName ≠ artifact.fileName ∧
          after.SamePlace (artifact.pathIn directory) (other.pathIn directory)
  /-- Without slashes in the names of tables nothing is overwritten. -/
  kept : (∀ name ∈ schema.tables.names, '/' ∉ name.toList) →
    ∀ directory before after delivered, delivered <+: batch →
      Disk.deliverAll directory before delivered = .ok after → ∀ artifact ∈ delivered,
        after.read (artifact.pathIn directory) = .ok artifact.bytes

/-- An artifact that is not there any more has given way to one that was delivered after it. -/
theorem Disk.exists_of_read_ne {directory : String} {before after : Disk}
    {artifacts : List Artifact} (hnodup : (artifacts.map (·.fileName)).Nodup)
    (h : before.deliverAll directory artifacts = .ok after) {artifact : Artifact}
    (hmem : artifact ∈ artifacts)
    (hread : after.read (artifact.pathIn directory) ≠ .ok artifact.bytes) :
    ∃ other ∈ artifacts, other.fileName ≠ artifact.fileName ∧
      after.SamePlace (artifact.pathIn directory) (other.pathIn directory) := by
  obtain ⟨earlier, later, rfl⟩ := List.append_of_mem hmem
  by_contra hnone
  refine hread ((delivered_of_deliverAll h).written earlier artifact later rfl ?_ nofun)
  intro other hother hsame
  refine hnone ⟨other, List.mem_append_right _ (List.mem_cons_of_mem _ hother), ?_, hsame⟩
  intro heq
  rw [List.map_append, List.map_cons] at hnodup
  have hfresh := (List.nodup_cons.1 (List.nodup_append.1 hnodup).2.1).1
  exact hfresh (List.mem_map.2 ⟨other, hother, heq⟩)

section Kinds

variable {schema : Schema} {make : Table → Artifact} {front back : String}
  (hmake : ∀ table, (make table).fileName = front ++ table.name ++ back)

include hmake

theorem nodup_fileNames : ((schema.tables.toList.map make).map (·.fileName)).Nodup := by
  have hnames : (schema.tables.toList.map make).map (·.fileName)
      = schema.tables.names.map fun name => front ++ name ++ back := by
    rw [Tables.names, List.map_map, List.map_map]
    exact List.map_congr_left fun table _ => hmake table
  rw [hnames]
  apply schema.tables.nodup_names.map
  intro name other h
  exact (String.append_right_inj _).1 ((String.append_left_inj _).1 h)

theorem slash_not_mem_fileName (hfront : '/' ∉ front.toList) (hback : '/' ∉ back.toList)
    {table : Table} (hname : '/' ∉ table.name.toList) : '/' ∉ (make table).fileName.toList := by
  rw [hmake, String.toList_append, String.toList_append, List.mem_append, List.mem_append]
  rintro ((h | h) | h)
  · exact hfront h
  · exact hname h
  · exact hback h

/-- Artifacts keep apart that are named after their tables, with the same texts around the names. -/
theorem keepsApart_map (hfront : '/' ∉ front.toList) (hback : '/' ∉ back.toList) :
    KeepsApart schema (schema.tables.toList.map make) := by
  have hnodup : ((schema.tables.toList.map make).map (·.fileName)).Nodup := nodup_fileNames hmake
  have hdistinct : ∀ delivered, delivered <+: schema.tables.toList.map make →
      (delivered.map (·.fileName)).Nodup :=
    fun _ hdelivered => hnodup.sublist (hdelivered.sublist.map _)
  constructor
  case fileNames => exact hnodup
  case overwritten =>
    intro directory before after delivered hdelivered h artifact hmem hread
    exact Disk.exists_of_read_ne (hdistinct delivered hdelivered) h hmem hread
  case kept =>
    intro hnames directory before after delivered hdelivered h artifact hmem
    have hplain : ∀ artifact ∈ delivered, '/' ∉ artifact.fileName.toList := by
      intro artifact hmem
      obtain ⟨table, htable, rfl⟩ := List.mem_map.1 (hdelivered.subset hmem)
      apply slash_not_mem_fileName hmake hfront hback
      exact hnames _ (Tables.mem_names_iff.2 ⟨table, htable, rfl⟩)
    by_contra hread
    obtain ⟨other, hother, hne, hsame⟩ :=
      Disk.exists_of_read_ne (hdistinct delivered hdelivered) h hmem hread
    exact hne (Disk.eq_of_samePlace (hplain artifact hmem) (hplain other hother) hsame).symm

end Kinds

theorem Artifact.keepsApart_mappings (schema : Schema) (options : Mapping.Options) :
    KeepsApart schema (schema.tables.toList.map (ofMapping schema options)) := by
  have hfileName : ∀ table, (ofMapping schema options table).fileName
      = "Data_Export_Mapping_" ++ table.name
        ++ ((if options.relations then "_with_relations" else "") ++ ".csv") := by
    intro table
    rw [← String.append_assoc]
    rfl
  apply keepsApart_map hfileName
  · decide
  · cases options.relations <;> decide

theorem Artifact.keepsApart_documents (schema : Schema) :
    KeepsApart schema (schema.tables.toList.map ofDocument) := by
  have hfileName : ∀ table, (ofDocument table).fileName = "schema_" ++ table.name ++ ".xml" :=
    fun _ => rfl
  apply keepsApart_map hfileName
  · decide
  · decide

/-- The operations on all tables give what those on single tables give, counted alike everywhere,
and under names that differ. -/
theorem batches_agree (schema : Schema) (options : Mapping.Options) :
    CountsAgree schema ∧ ∃ sheets mappings documents,
      BatchesAgree schema options sheets mappings documents ∧
      KeepsApart schema mappings ∧ KeepsApart schema documents :=
  ⟨countsAgree schema, _, _, _, batchesAgree schema options,
    Artifact.keepsApart_mappings schema options, Artifact.keepsApart_documents schema⟩

/-- The documents of two tables, one of them in a relation, are delivered to a new directory. -/
theorem batches_agree_delivered :
    let schema : Schema :=
      { tables := ⟨[⟨"a", []⟩, ⟨"b", [⟨"t", "Text", "T", ""⟩]⟩], by decide⟩
        relationships := [⟨"r", "a", "b", "", ""⟩]
        vocabulary := {} }
    ∃ documents after, Artifact.schemaDocuments schema = .ok documents ∧
      (Disk.withWorkingDirectory "w").deliverAll "out" documents = .ok after ∧
      elementSum documents = 1 ∧
      ∀ document ∈ documents, after.read (document.pathIn "out") = .ok document.bytes := by
  intro schema
  obtain ⟨hcounts, sheets, mappings, documents, hagree, -, hapart⟩ := batches_agree schema {}
  have hdelivers : (Artifact.schemaDocuments schema).toOption.any (fun documents =>
      ((Disk.withWorkingDirectory "w").deliverAll "out" documents).toOption.any fun _ => true)
      = true := by decide +kernel
  obtain ⟨found, hfound, hdelivers⟩ := exists_ok_of_any hdelivers
  obtain rfl := Except.ok.inj (hagree.documented.symm.trans hfound)
  obtain ⟨after, hafter, -⟩ := exists_ok_of_any hdelivers
  refine ⟨documents, after, hfound, hafter, hcounts.schemaDocuments documents hfound, ?_⟩
  exact hapart.kept (by decide) _ _ _ _ List.prefix_rfl hafter

/-! ### Artifacts that overwrite each other -/

/-- An artifact is not read back when the last one goes to the same place with another text. -/
theorem Disk.read_ne_of_last {disk after : Disk} {directory : String} {artifacts : List Artifact}
    {artifact last : Artifact} (h : disk.deliverAll directory (artifacts ++ [last]) = .ok after)
    (hplace : after.place (artifact.pathIn directory) = after.place (last.pathIn directory))
    (hcontents : artifact.contents ≠ last.contents) :
    after.read (artifact.pathIn directory) ≠ .ok artifact.bytes := by
  have hlast : after.read (last.pathIn directory) = .ok last.bytes :=
    (delivered_of_deliverAll h).written artifacts last [] rfl nofun nofun
  intro hread
  obtain ⟨place, hsame, hbytes⟩ := read_eq_ok_iff.1 hread
  rw [hplace] at hsame
  have hbytes := read_eq_ok_iff.2 ⟨place, hsame, hbytes⟩
  rw [hlast] at hbytes
  have heq : last.contents.toUTF8 = artifact.contents.toUTF8 := Except.ok.inj hbytes
  exact hcontents (String.toByteArray_inj.1 heq).symm

/-- Of the schema documents of all tables the last one overwrites another. -/
def overwritesDocument (disk : Disk) (directory : String) (schema : Schema) : Bool :=
  (Artifact.schemaDocuments schema).toOption.any fun artifacts =>
    (disk.deliverAll directory artifacts).toOption.any fun after =>
      artifacts.getLast?.any fun last => artifacts.any fun artifact =>
        after.place (artifact.pathIn directory) = after.place (last.pathIn directory)
          && artifact.contents ≠ last.contents

theorem exists_of_overwritesDocument {disk : Disk} {directory : String} {schema : Schema}
    (h : overwritesDocument disk directory schema = true) :
    ∃ artifacts after, Artifact.schemaDocuments schema = .ok artifacts ∧
      disk.deliverAll directory artifacts = .ok after ∧
      ∃ artifact ∈ artifacts, after.read (artifact.pathIn directory) ≠ .ok artifact.bytes := by
  obtain ⟨artifacts, hdocuments, hdeliver⟩ := exists_ok_of_any h
  obtain ⟨after, hafter, hlast⟩ := exists_ok_of_any hdeliver
  obtain ⟨last, hlast, hany⟩ := (Option.any_eq_true _ _).1 hlast
  obtain ⟨artifact, hmem, hsame⟩ := List.any_eq_true.1 hany
  obtain ⟨hplace, hcontents⟩ := (Bool.and_eq_true _ _).mp hsame
  obtain ⟨front, rfl⟩ := List.getLast?_eq_some_iff.1 hlast
  exact ⟨_, after, hdocuments, hafter, artifact, hmem,
    Disk.read_ne_of_last hafter (of_decide_eq_true hplace) (of_decide_eq_true hcontents)⟩

/-- Two tables have names that lead to the same file. -/
theorem document_lost_same_file :
    let schema : Schema :=
      { tables := ⟨[⟨"x/./y", []⟩, ⟨"x/y", []⟩], by decide⟩
        relationships := []
        vocabulary := {} }
    ∃ documents after, Artifact.schemaDocuments schema = .ok documents ∧
      (Disk.withWorkingDirectory "w").deliverAll "schema_x/.." documents = .ok after ∧
      ∃ document ∈ documents, after.read (document.pathIn "schema_x/..") ≠ .ok document.bytes :=
  exists_of_overwritesDocument (by decide +kernel)

end CollectionProfile
