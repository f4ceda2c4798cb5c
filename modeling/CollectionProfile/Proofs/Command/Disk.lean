import CollectionProfile.Command.Disk
import Mathlib.Data.List.Basic

/-!
# What stands where on a disk

A disk is seen from outside by two views: of what kind the entry at a path is (`Disk.kindAt?`), and
what the file at a path holds (`Disk.fileAt?`). `bind_entryAt?_put` says for every such view that an
entry which is put at a path is seen there and that all else is seen as before.
-/

namespace CollectionProfile

inductive EntryKind
  | file
  | directory
deriving DecidableEq, Repr

namespace DiskEntry

def kind : DiskEntry → EntryKind
  | .file _ => .file
  | .directory _ => .directory

def contents? : DiskEntry → Option ByteArray
  | .file contents => some contents
  | .directory _ => none

theorem entryAt?_nil (entry : DiskEntry) : entry.entryAt? [] = some entry := rfl

theorem entryAt?_cons (entries : Directory) (name : String) (rest : EntryPath) :
    (directory entries).entryAt? (name :: rest)
      = (entries.lookup name).bind (·.entryAt? rest) := rfl

theorem entryAt?_append (entry : DiskEntry) (front back : EntryPath) :
    entry.entryAt? (front ++ back) = (entry.entryAt? front).bind (·.entryAt? back) := by
  induction front generalizing entry with
  | nil => rfl
  | cons name rest ih =>
    cases entry with
    | file contents => rfl
    | directory entries =>
      rw [List.cons_append, entryAt?_cons, entryAt?_cons]
      cases entries.lookup name with
      | none => rfl
      | some inner => exact ih inner

/-- Below something that is no directory there is nothing. -/
theorem entryAt?_cons_of_kind {entry : DiskEntry} (h : entry.kind ≠ .directory) (name : String)
    (rest : EntryPath) : entry.entryAt? (name :: rest) = none := by
  cases entry with
  | file contents => rfl
  | directory entries => exact absurd rfl h

end DiskEntry

namespace Directory

theorem lookup_cons (first : String) (old : DiskEntry) (rest : Directory) (other : String) :
    List.lookup other ((first, old) :: rest)
      = if other = first then some old else List.lookup other rest := by
  by_cases h : other = first
  · rw [if_pos h, h, List.lookup_cons_self]
  · have hbeq : (other == first) = false := beq_false_of_ne h
    rw [if_neg h, List.lookup_cons, hbeq]

theorem lookup_set (directory : Directory) (name other : String) (entry : DiskEntry) :
    (directory.set name entry).lookup other
      = if other = name then some entry else directory.lookup other := by
  induction directory with
  | nil =>
    show List.lookup other [(name, entry)] = _
    rw [lookup_cons]
  | cons head rest ih =>
    obtain ⟨first, old⟩ := head
    by_cases hfirst : first = name
    · rw [set, if_pos hfirst, lookup_cons, lookup_cons, hfirst]
      split <;> rfl
    · rw [set, if_neg hfirst, lookup_cons, lookup_cons, ih]
      -- The entry that is set stands behind the first one, which has another name.
      by_cases hother : other = first
      · rw [if_pos hother, if_neg (hother ▸ hfirst), if_pos hother]
      · rw [if_neg hother, if_neg hother]

theorem put_cons (directory : Directory) (entry : DiskEntry) (name : String) {rest : EntryPath}
    (hrest : rest ≠ []) {inner : Directory} (h : directory.lookup name = some (.directory inner)) :
    directory.put entry (name :: rest)
      = directory.set name (.directory (inner.put entry rest)) := by
  obtain ⟨next, more, rfl⟩ := List.exists_cons_of_ne_nil hrest
  rw [put, h]
  simp

end Directory

section Put

variable {β : Type} {view : DiskEntry → Option β}

/-- A view that does not look into directories sees the entry that was put at a path, and all else
as before. Nothing may be below the entry, nor below what it takes the place of. -/
theorem bind_entryAt?_put (hview : ∀ a b, view (.directory a) = view (.directory b))
    {entry : DiskEntry} (hentry : ∀ name rest, entry.entryAt? (name :: rest) = none)
    {directory entries : Directory} {around : EntryPath} {name : String}
    (haround : (DiskEntry.directory directory).entryAt? around = some (.directory entries))
    (hplace : ∀ old, entries.lookup name = some old → old.kind ≠ .directory) (path : EntryPath) :
    ((DiskEntry.directory (directory.put entry (around ++ [name]))).entryAt? path).bind view
      = if path = around ++ [name] then view entry
        else ((DiskEntry.directory directory).entryAt? path).bind view := by
  induction around generalizing directory path with
  | nil =>
    obtain rfl : directory = entries := by simpa [DiskEntry.entryAt?] using haround
    show ((DiskEntry.directory (directory.set name entry)).entryAt? path).bind view = _
    cases path with
    | nil => exact hview _ _
    | cons first rest =>
      rw [DiskEntry.entryAt?_cons, DiskEntry.entryAt?_cons, Directory.lookup_set]
      by_cases hfirst : first = name
      · subst hfirst
        rw [if_pos rfl, Option.bind_some]
        cases rest with
        | nil => simp [DiskEntry.entryAt?_nil]
        | cons next more =>
          rw [hentry, if_neg (by simp)]
          cases hold : directory.lookup first with
          | none => rfl
          | some old =>
            rw [Option.bind_some, DiskEntry.entryAt?_cons_of_kind (hplace old hold)]
      · rw [if_neg hfirst, if_neg (by simp [hfirst])]
  | cons outer around ih =>
    rw [DiskEntry.entryAt?_cons] at haround
    obtain ⟨old, hold, hinner⟩ := Option.bind_eq_some_iff.1 haround
    have hdirectory : ∃ inner, old = .directory inner := by
      cases old with
      | directory inner => exact ⟨inner, rfl⟩
      | file contents => cases around <;> simp [DiskEntry.entryAt?] at hinner
    obtain ⟨inner, rfl⟩ := hdirectory
    rw [List.cons_append, Directory.put_cons directory entry outer (by simp) hold]
    cases path with
    | nil => exact hview _ _
    | cons first rest =>
      rw [DiskEntry.entryAt?_cons, DiskEntry.entryAt?_cons, Directory.lookup_set]
      by_cases hfirst : first = outer
      · subst hfirst
        rw [if_pos rfl, Option.bind_some, hold, Option.bind_some, ih hinner rest]
        simp
      · rw [if_neg hfirst, if_neg (by simp [hfirst])]

end Put

namespace Disk

/-- The kind of what stands at a path. -/
def kindAt? (disk : Disk) (path : EntryPath) : Option EntryKind :=
  (disk.entryAt? path).bind fun entry => some entry.kind

/-- What the file at a path holds, if there is one. -/
def fileAt? (disk : Disk) (path : EntryPath) : Option ByteArray :=
  (disk.entryAt? path).bind DiskEntry.contents?

/-- A file or an empty directory may be put at the path: it is in a directory, and there is no
directory at it. -/
def Admits (disk : Disk) (path : EntryPath) : Prop :=
  ∃ around name, path = around ++ [name] ∧ disk.kindAt? around = some .directory ∧
    disk.kindAt? path ≠ some .directory

variable {disk : Disk} {path : EntryPath}

theorem kindAt?_of_entryAt? {entry : DiskEntry} (h : disk.entryAt? path = some entry) :
    disk.kindAt? path = some entry.kind := by
  rw [kindAt?, h]
  rfl

theorem exists_of_kindAt?_directory (h : disk.kindAt? path = some .directory) :
    ∃ entries, disk.entryAt? path = some (.directory entries) := by
  obtain ⟨entry, hentry, hkind⟩ := Option.bind_eq_some_iff.1 h
  cases entry with
  | file contents => cases hkind
  | directory entries => exact ⟨entries, hentry⟩

theorem isSome_fileAt?_iff :
    (disk.fileAt? path).isSome = true ↔ disk.kindAt? path = some .file := by
  rw [fileAt?, kindAt?]
  cases disk.entryAt? path with
  | none => simp
  | some entry => cases entry <;> simp [DiskEntry.contents?, DiskEntry.kind]

theorem fileAt?_eq_none_of_kindAt? (h : disk.kindAt? path ≠ some .file) :
    disk.fileAt? path = none := by
  rw [← Option.not_isSome_iff_eq_none, isSome_fileAt?_iff]
  exact h

theorem kindAt?_append_singleton {entries : Directory}
    (h : disk.entryAt? path = some (.directory entries)) (name : String) :
    disk.kindAt? (path ++ [name]) = (entries.lookup name).map DiskEntry.kind := by
  rw [kindAt?, entryAt?, DiskEntry.entryAt?_append]
  rw [entryAt?] at h
  rw [h, Option.bind_some, DiskEntry.entryAt?_cons]
  cases entries.lookup name with
  | none => rfl
  | some entry => rfl

/-- Whatever something stands below is a directory. -/
theorem kindAt?_of_append {name : String} {rest : EntryPath} {kind : EntryKind}
    (h : disk.kindAt? (path ++ name :: rest) = some kind) :
    disk.kindAt? path = some .directory := by
  rw [kindAt?, entryAt?, DiskEntry.entryAt?_append] at h
  rw [kindAt?, entryAt?]
  cases hentry : (DiskEntry.directory disk.root).entryAt? path with
  | none => simp [hentry] at h
  | some entry =>
    cases entry with
    | directory entries => rfl
    | file contents => simp [hentry, DiskEntry.entryAt?] at h

theorem bind_entryAt?_put {β : Type} {view : DiskEntry → Option β}
    (hview : ∀ a b, view (.directory a) = view (.directory b)) {entry : DiskEntry}
    (hentry : ∀ name rest, entry.entryAt? (name :: rest) = none) (h : disk.Admits path)
    (other : EntryPath) :
    ((disk.put path entry).entryAt? other).bind view
      = if other = path then view entry else (disk.entryAt? other).bind view := by
  obtain ⟨around, name, rfl, haround, hfree⟩ := h
  obtain ⟨entries, hentries⟩ := exists_of_kindAt?_directory haround
  refine CollectionProfile.bind_entryAt?_put hview hentry hentries (fun old hold hkind => hfree ?_)
    other
  rw [kindAt?_append_singleton hentries, hold, Option.map_some, hkind]

theorem kindAt?_put_file (h : disk.Admits path) (contents : ByteArray) (other : EntryPath) :
    (disk.put path (.file contents)).kindAt? other
      = if other = path then some .file else disk.kindAt? other :=
  bind_entryAt?_put (fun _ _ => rfl) (fun _ _ => rfl) h other

theorem fileAt?_put_file (h : disk.Admits path) (contents : ByteArray) (other : EntryPath) :
    (disk.put path (.file contents)).fileAt? other
      = if other = path then some contents else disk.fileAt? other :=
  bind_entryAt?_put (fun _ _ => rfl) (fun _ _ => rfl) h other

theorem kindAt?_put_directory (h : disk.Admits path) (other : EntryPath) :
    (disk.put path (.directory [])).kindAt? other
      = if other = path then some .directory else disk.kindAt? other :=
  bind_entryAt?_put (fun _ _ => rfl) (fun _ _ => rfl) h other

/-- A new directory hides no file. -/
theorem fileAt?_put_directory (h : disk.Admits path) (hnew : disk.kindAt? path = none)
    (other : EntryPath) : (disk.put path (.directory [])).fileAt? other = disk.fileAt? other := by
  have hput : (disk.put path (.directory [])).fileAt? other
      = if other = path then none else disk.fileAt? other :=
    bind_entryAt?_put (fun _ _ => rfl) (fun _ _ => rfl) h other
  rw [hput]
  split
  · next heq =>
    rw [heq, fileAt?_eq_none_of_kindAt? (by simp [hnew])]
  · rfl

end Disk

end CollectionProfile
