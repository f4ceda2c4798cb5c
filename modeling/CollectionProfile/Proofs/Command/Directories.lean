import CollectionProfile.Proofs.Command.Path

/-!
# Making directories

Whether directories can be made hangs only on which entries there are, so on disks that agree but
for what one file holds it goes alike (`alike_makeDirectories`). Where it goes well the disk only
grows, and no file changes (`extends_of_makeDirectories`, `fileAt?_of_makeDirectories`).
-/

namespace CollectionProfile.Disk

open Markup (bind_eq_ok_iff)

/-- What stands on the disk stands on the other as well, though files may hold something else. -/
structure Extends (disk larger : Disk) : Prop where
  working : larger.working = disk.working
  kinds : ∀ path kind, disk.kindAt? path = some kind → larger.kindAt? path = some kind

/-- The disks have the same entries, and their files hold the same, but for one that may differ. -/
structure Agrees (apart : Option EntryPath) (disk other : Disk) : Prop where
  working : other.working = disk.working
  kinds : other.kindAt? = disk.kindAt?
  files : ∀ path, apart ≠ some path → other.fileAt? path = disk.fileAt? path

/-- Both went well and left disks that agree, or both failed in the same way. -/
inductive Alike (apart : Option EntryPath) : Except FileFault Disk → Except FileFault Disk → Prop
  | ok {disk other : Disk} : Agrees apart disk other → Alike apart (.ok disk) (.ok other)
  | error (fault : FileFault) : Alike apart (.error fault) (.error fault)

variable {disk other larger : Disk} {apart : Option EntryPath}

namespace Extends

theorem refl (disk : Disk) : disk.Extends disk := ⟨rfl, fun _ _ h => h⟩

theorem trans {last : Disk} (h : disk.Extends larger) (hlast : larger.Extends last) :
    disk.Extends last :=
  ⟨hlast.working.trans h.working, fun path kind hkind =>
    hlast.kinds path kind (h.kinds path kind hkind)⟩

theorem place (h : disk.Extends larger) {path : String} {place : EntryPath}
    (hplace : disk.place path = .ok place) : larger.place path = .ok place :=
  place_of_directories h.working (fun path => h.kinds path .directory) hplace

end Extends

theorem extends_put_file {path : EntryPath} (h : disk.Admits path) (contents : ByteArray) :
    disk.Extends (disk.put path (.file contents)) := by
  refine ⟨rfl, fun other kind hkind => ?_⟩
  rw [kindAt?_put_file h]
  split
  · next heq =>
    subst heq
    obtain ⟨around, name, -, -, hfree⟩ := h
    cases kind with
    | file => rfl
    | directory => exact absurd hkind hfree
  · exact hkind

theorem extends_put_directory {path : EntryPath} (h : disk.Admits path)
    (hnew : disk.kindAt? path = none) : disk.Extends (disk.put path (.directory [])) := by
  refine ⟨rfl, fun other kind hkind => ?_⟩
  rw [kindAt?_put_directory h, if_neg]
  · exact hkind
  · rintro rfl
    rw [hnew] at hkind
    cases hkind

namespace Agrees

theorem refl (apart : Option EntryPath) (disk : Disk) : Agrees apart disk disk :=
  ⟨rfl, rfl, fun _ _ => rfl⟩

theorem trans {last : Disk} (h : Agrees apart disk other) (hlast : Agrees apart other last) :
    Agrees apart disk last :=
  ⟨hlast.working.trans h.working, hlast.kinds.trans h.kinds, fun path hpath =>
    (hlast.files path hpath).trans (h.files path hpath)⟩

theorem place (h : Agrees apart disk other) (path : String) :
    other.place path = disk.place path := by
  rw [place_eq, place_eq, usableParts_congr h.working, h.kinds]

theorem admits (h : Agrees apart disk other) {path : EntryPath} (hpath : disk.Admits path) :
    other.Admits path := by
  rw [Admits, h.kinds]
  exact hpath

theorem put_file (h : Agrees apart disk other) {path : EntryPath} (hpath : disk.Admits path)
    (contents : ByteArray) :
    Agrees apart (disk.put path (.file contents)) (other.put path (.file contents)) where
  working := h.working
  kinds := by
    funext place
    rw [kindAt?_put_file hpath, kindAt?_put_file (h.admits hpath), h.kinds]
  files place hplace := by
    rw [fileAt?_put_file hpath, fileAt?_put_file (h.admits hpath), h.files place hplace]

theorem put_directory (h : Agrees apart disk other) {path : EntryPath} (hpath : disk.Admits path)
    (hnew : disk.kindAt? path = none) :
    Agrees apart (disk.put path (.directory [])) (other.put path (.directory [])) where
  working := h.working
  kinds := by
    funext place
    rw [kindAt?_put_directory hpath, kindAt?_put_directory (h.admits hpath), h.kinds]
  files place hplace := by
    have hnew' : other.kindAt? path = none := by rw [h.kinds, hnew]
    rw [fileAt?_put_directory hpath hnew, fileAt?_put_directory (h.admits hpath) hnew',
      h.files place hplace]

end Agrees

theorem Alike.bind {x y : Except FileFault Disk} {f g : Disk → Except FileFault Disk}
    (h : Alike apart x y)
    (hnext : ∀ disk other, Agrees apart disk other → Alike apart (f disk) (g other)) :
    Alike apart (x >>= f) (y >>= g) := by
  cases h with
  | ok hagrees => exact hnext _ _ hagrees
  | error fault => exact .error fault

theorem Alike.exists_of_ok {y : Except FileFault Disk} (h : Alike apart (.ok disk) y) :
    ∃ other, y = .ok other ∧ Agrees apart disk other := by
  cases h with
  | ok hagrees => exact ⟨_, rfl, hagrees⟩

theorem Alike.eq_of_error {fault : FileFault} {y : Except FileFault Disk}
    (h : Alike apart (.error fault) y) : y = .error fault := by
  cases h with
  | error => rfl

/-! ### One directory -/

/-- The place of a new directory, given what kinds of entries there are. -/
def newDirectoryOf (kinds : EntryPath → Option EntryKind) (parts : List String) :
    Except FileFault EntryPath := do
  let around ← steps kinds [] parts.dropLast
  let name := parts.getLastD "."
  if kinds around ≠ some .directory then .error .notDirectory
  else if name = "." ∨ name = ".." then .error .alreadyExists
  else if maxNameSize < name.utf8ByteSize then .error .nameTooLong
  else if kinds (around ++ [name]) ≠ none then .error .alreadyExists
  else .ok (around ++ [name])

theorem makeDirectory_eq (disk : Disk) (parts : List String) :
    disk.makeDirectory parts
      = (newDirectoryOf disk.kindAt? parts).map fun path => disk.put path (.directory []) := by
  rw [makeDirectory, newDirectoryOf]
  rcases walk_cases disk parts.dropLast with ⟨fault, hwalk, hsteps⟩ | ⟨trail, hwalk, hsteps, hentry⟩
  · rw [hwalk, hsteps]
    rfl
  · rw [hwalk, hsteps]
    have hkind := kindAt?_of_entryAt? hentry
    simp only [bind, Except.bind]
    cases hreached : disk.reached trail with
    | file contents =>
      rw [hkind, hreached]
      rfl
    | directory entries =>
      rw [hreached] at hkind hentry
      have hkind : disk.kindAt? trail.path = some .directory := hkind
      rw [if_neg (not_not.2 hkind), kindAt?_append_singleton hentry]
      dsimp only
      split
      · rfl
      · split
        · rfl
        · cases entries.lookup (parts.getLastD ".") with
          | none => rfl
          | some entry => rfl

theorem admits_of_newDirectory {parts : List String} {path : EntryPath}
    (h : newDirectoryOf disk.kindAt? parts = .ok path) :
    disk.Admits path ∧ disk.kindAt? path = none := by
  obtain ⟨around, -, h⟩ := bind_eq_ok_iff.1 h
  dsimp only at h
  split at h
  · cases h
  · next hkind =>
    split at h
    · cases h
    · split at h
      · cases h
      · split at h
        · cases h
        · next hnew =>
          have hpath := Except.ok.inj h
          have hnone := not_not.1 hnew
          rw [hpath] at hnone
          refine ⟨⟨around, _, hpath.symm, not_not.1 hkind, ?_⟩, hnone⟩
          rw [hnone]
          exact Option.some_ne_none _ |>.symm

theorem isDirectory_iff {parts : List String} :
    disk.isDirectory parts = true ↔
      ∃ path, steps disk.kindAt? [] parts = .ok path ∧ disk.kindAt? path = some .directory := by
  rw [isDirectory]
  rcases walk_cases disk parts with ⟨fault, hwalk, hsteps⟩ | ⟨trail, hwalk, hsteps, hentry⟩
  · simp [hwalk, hsteps]
  · have hkind := kindAt?_of_entryAt? hentry
    rw [hwalk, hsteps]
    simp only [Except.ok.injEq, exists_eq_left', hkind]
    cases disk.reached trail <;> simp [DiskEntry.kind]

theorem Agrees.isDirectory (h : Agrees apart disk other) (parts : List String) :
    other.isDirectory parts = disk.isDirectory parts := by
  rw [Bool.eq_iff_iff, isDirectory_iff, isDirectory_iff, h.kinds]

theorem alike_makeDirectory (h : Agrees apart disk other) (parts : List String) :
    Alike apart (disk.makeDirectory parts) (other.makeDirectory parts) := by
  rw [makeDirectory_eq, makeDirectory_eq, h.kinds]
  cases hnew : newDirectoryOf disk.kindAt? parts with
  | error fault => exact .error fault
  | ok path =>
    obtain ⟨hpath, hnone⟩ := admits_of_newDirectory hnew
    exact .ok (h.put_directory hpath hnone)

/-- The disk has grown by directories alone. -/
theorem grows_of_makeDirectory {parts : List String} (h : disk.makeDirectory parts = .ok larger) :
    disk.Extends larger ∧ larger.fileAt? = disk.fileAt? := by
  rw [makeDirectory_eq] at h
  cases hnew : newDirectoryOf disk.kindAt? parts with
  | error fault => simp [hnew, Except.map] at h
  | ok path =>
    obtain ⟨hpath, hnone⟩ := admits_of_newDirectory hnew
    rw [hnew] at h
    obtain rfl : disk.put path (.directory []) = larger := Except.ok.inj h
    exact ⟨extends_put_directory hpath hnone, funext (fileAt?_put_directory hpath hnone)⟩

/-! ### Directories around directories -/

theorem alike_ensureDirectory (h : Agrees apart disk other) (parts : List String) :
    Alike apart (disk.ensureDirectory parts) (other.ensureDirectory parts) := by
  have hmake := alike_makeDirectory h parts
  rw [ensureDirectory, ensureDirectory, h.isDirectory]
  cases hmade : disk.makeDirectory parts with
  | ok made =>
    rw [hmade] at hmake
    obtain ⟨made', hmade', hagrees⟩ := hmake.exists_of_ok
    rw [hmade']
    exact .ok hagrees
  | error fault =>
    rw [hmade] at hmake
    rw [hmake.eq_of_error]
    show Alike apart (if _ then _ else _) (if _ then _ else _)
    split
    · exact .ok h
    · exact .error fault

theorem grows_of_ensureDirectory {parts : List String}
    (h : disk.ensureDirectory parts = .ok larger) :
    disk.Extends larger ∧ larger.fileAt? = disk.fileAt? := by
  rw [ensureDirectory] at h
  split at h
  · next made hmade =>
    obtain rfl : made = larger := Except.ok.inj h
    exact grows_of_makeDirectory hmade
  · split at h
    · obtain rfl : disk = larger := Except.ok.inj h
      exact ⟨Extends.refl disk, rfl⟩
    · cases h

theorem makeAll_of_error {part : String} {outer : List String} {fault : FileFault}
    (h : disk.makeDirectory (part :: outer).reverse = .error fault) (hfault : fault ≠ .notFound) :
    disk.makeAll (part :: outer)
      = if disk.isDirectory (part :: outer).reverse then .ok disk else .error fault := by
  rw [makeAll, h]
  cases fault with
  | notFound => exact absurd rfl hfault
  | _ => rfl

theorem alike_makeAll (h : Agrees apart disk other) (reversed : List String) :
    Alike apart (disk.makeAll reversed) (other.makeAll reversed) := by
  fun_induction makeAll disk reversed with
  | case1 =>
    rw [makeAll]
    exact .ok h
  | case2 part outer parts made hmade =>
    have hmake := alike_makeDirectory h parts
    rw [hmade] at hmake
    obtain ⟨made', hmade', hagrees⟩ := hmake.exists_of_ok
    rw [makeAll, hmade']
    exact .ok hagrees
  | case3 part outer parts hmade hle ih =>
    -- What is around the directory is missing on both disks.
    have hmake := alike_makeDirectory h parts
    rw [hmade] at hmake
    rw [makeAll, hmake.eq_of_error]
    exact ih.bind fun _ _ hagrees => alike_ensureDirectory hagrees parts
  | case4 part outer parts fault hfault hmade hdirectory =>
    have hmake := alike_makeDirectory h parts
    rw [hmade] at hmake
    rw [makeAll_of_error hmake.eq_of_error hfault, h.isDirectory, if_pos hdirectory]
    exact .ok h
  | case5 part outer parts fault hfault hmade hdirectory =>
    have hmake := alike_makeDirectory h parts
    rw [hmade] at hmake
    rw [makeAll_of_error hmake.eq_of_error hfault, h.isDirectory, if_neg hdirectory]
    exact .error fault

theorem grows_of_makeAll (disk : Disk) (reversed : List String) :
    ∀ larger, disk.makeAll reversed = .ok larger →
      disk.Extends larger ∧ larger.fileAt? = disk.fileAt? := by
  fun_induction makeAll disk reversed with
  | case1 =>
    intro larger h
    obtain rfl : disk = larger := Except.ok.inj h
    exact ⟨Extends.refl disk, rfl⟩
  | case2 part outer parts made hmade =>
    intro larger h
    obtain rfl : made = larger := Except.ok.inj h
    exact grows_of_makeDirectory hmade
  | case3 part outer parts hmade hle ih =>
    intro larger h
    obtain ⟨around, haround, h⟩ := bind_eq_ok_iff.1 h
    obtain ⟨hextends, hfiles⟩ := ih around haround
    obtain ⟨hextends', hfiles'⟩ := grows_of_ensureDirectory h
    exact ⟨hextends.trans hextends', hfiles'.trans hfiles⟩
  | case4 =>
    intro larger h
    obtain rfl : disk = larger := Except.ok.inj h
    exact ⟨Extends.refl disk, rfl⟩
  | case5 =>
    intro larger h
    cases h

/-! ### Directories at written paths -/

theorem alike_makeDirectories (h : Agrees apart disk other) (path : String) :
    Alike apart (disk.makeDirectories path) (other.makeDirectories path) := by
  rw [makeDirectories, makeDirectories, usableParts_congr h.working]
  split
  · exact .ok h
  · cases disk.usableParts path with
    | error fault => exact .error fault
    | ok parts => exact alike_makeAll h _

theorem grows_of_makeDirectories {path : String} (h : disk.makeDirectories path = .ok larger) :
    disk.Extends larger ∧ larger.fileAt? = disk.fileAt? := by
  rw [makeDirectories] at h
  split at h
  · obtain rfl : disk = larger := Except.ok.inj h
    exact ⟨Extends.refl disk, rfl⟩
  · obtain ⟨parts, -, h⟩ := bind_eq_ok_iff.1 h
    exact grows_of_makeAll disk _ larger h

end CollectionProfile.Disk
