import CollectionProfile.Markup.Scan
import CollectionProfile.Proofs.Command.Disk

/-!
# Where written paths lead

The way that a written path leads hangs only on which entries are directories and which are files,
not on what the files hold (`map_walk`, `place_eq`). So it leads the same way on disks that agree
but for the contents of files, and a way that has been found stays when entries are added
(`place_extends`). Reading and writing are told by the place that a path leads to (`read_eq_ok_iff`,
`write_eq`, `append_eq`).
-/

namespace CollectionProfile.Disk

open Markup (bind_eq_ok_iff)

/-- The path that is reached from a path by further parts, given what kinds of entries there are. -/
def steps (kinds : EntryPath → Option EntryKind) (path : EntryPath) :
    List String → Except FileFault EntryPath
  | [] => .ok path
  | part :: rest =>
    if kinds path ≠ some .directory then .error .notDirectory
    else if part = "" ∨ part = "." then steps kinds path rest
    else if part = ".." then steps kinds path.dropLast rest
    else if maxNameSize < part.utf8ByteSize then .error .nameTooLong
    else if kinds (path ++ [part]) = none then .error .notFound
    else steps kinds (path ++ [part]) rest

/-- The place that the parts of a path lead to, given what kinds of entries there are. -/
def placeOf (kinds : EntryPath → Option EntryKind) (parts : List String) :
    Except FileFault EntryPath := do
  let named := (parts.reverse.dropWhile (· = "")).reverse
  let around ← steps kinds [] named.dropLast
  let name := named.getLastD "."
  if kinds around ≠ some .directory then .error .notDirectory
  else if named.length < parts.length ∨ name = "." ∨ name = ".." then .error .isDirectory
  else if maxNameSize < name.utf8ByteSize then .error .nameTooLong
  else .ok (around ++ [name])

/-- Every entry of the trail is in the directory that the trail before it has come to. -/
def Leads (disk : Disk) : Trail → Prop
  | [] => True
  | (name, entry) :: trail => Leads disk trail ∧
    ∃ entries, disk.reached trail = .directory entries ∧ entries.lookup name = some entry

variable {disk : Disk}

/-! ### Walks -/

theorem entryAt?_of_leads {trail : Trail} (h : disk.Leads trail) :
    disk.entryAt? trail.path = some (disk.reached trail) := by
  induction trail with
  | nil => rfl
  | cons step trail ih =>
    obtain ⟨name, entry⟩ := step
    obtain ⟨htrail, entries, hreached, hlookup⟩ := h
    have hpath : Trail.path ((name, entry) :: trail) = Trail.path trail ++ [name] := by
      simp [Trail.path]
    have htrail := ih htrail
    rw [entryAt?] at htrail
    rw [hpath, entryAt?, DiskEntry.entryAt?_append, htrail, Option.bind_some, hreached,
      DiskEntry.entryAt?_cons, hlookup]
    rfl

theorem kindAt?_of_leads {trail : Trail} (h : disk.Leads trail) :
    disk.kindAt? trail.path = some (disk.reached trail).kind :=
  kindAt?_of_entryAt? (entryAt?_of_leads h)

theorem path_drop_one (trail : Trail) : Trail.path (trail.drop 1) = trail.path.dropLast := by
  simp [Trail.path, List.dropLast_reverse]

theorem leads_drop_one {trail : Trail} (h : disk.Leads trail) : disk.Leads (trail.drop 1) := by
  cases trail with
  | nil => trivial
  | cons step trail => exact h.1

theorem leads_walk {trail result : Trail} {parts : List String} (h : disk.Leads trail)
    (hwalk : disk.walk trail parts = .ok result) : disk.Leads result := by
  induction parts generalizing trail with
  | nil =>
    obtain rfl : trail = result := by simpa [walk] using hwalk
    exact h
  | cons part rest ih =>
    rw [walk] at hwalk
    cases hreached : disk.reached trail with
    | file contents => simp [hreached] at hwalk
    | directory entries =>
      simp only [hreached] at hwalk
      split at hwalk
      · exact ih h hwalk
      · split at hwalk
        · exact ih (leads_drop_one h) hwalk
        · split at hwalk
          · cases hwalk
          · cases hlookup : entries.lookup part with
            | none => simp [hlookup] at hwalk
            | some entry =>
              simp only [hlookup] at hwalk
              have hnext : disk.Leads ((part, entry) :: trail) := ⟨h, entries, hreached, hlookup⟩
              exact ih hnext hwalk

/-- A walk is led by the kinds of entries alone. -/
theorem map_walk {trail : Trail} (h : disk.Leads trail) (parts : List String) :
    (disk.walk trail parts).map Trail.path = steps disk.kindAt? trail.path parts := by
  induction parts generalizing trail with
  | nil => rfl
  | cons part rest ih =>
    have hkind := kindAt?_of_leads h
    rw [walk, steps]
    cases hreached : disk.reached trail with
    | file contents =>
      rw [hkind, hreached]
      rfl
    | directory entries =>
      rw [hreached] at hkind
      rw [if_neg (by simp [hkind, DiskEntry.kind])]
      show Except.map _ (if _ then _ else _) = _
      split
      · exact ih h
      · split
        · rw [← path_drop_one]
          exact ih (leads_drop_one h)
        · split
          · rfl
          · have hentry := entryAt?_of_leads h
            rw [hreached] at hentry
            rw [kindAt?_append_singleton hentry]
            cases hlookup : entries.lookup part with
            | none => rfl
            | some entry =>
              have hpath : Trail.path ((part, entry) :: trail) = trail.path ++ [part] := by
                simp [Trail.path]
              rw [if_neg (by simp), ← hpath]
              exact ih ⟨h, entries, hreached, hlookup⟩

/-- A walk from the root, with the kind of what it comes to. -/
theorem walk_cases (disk : Disk) (parts : List String) :
    (∃ fault, disk.walk [] parts = .error fault ∧ steps disk.kindAt? [] parts = .error fault) ∨
      ∃ trail, disk.walk [] parts = .ok trail ∧ steps disk.kindAt? [] parts = .ok trail.path ∧
        disk.entryAt? trail.path = some (disk.reached trail) := by
  have hroot : disk.Leads [] := trivial
  have hsteps : (disk.walk [] parts).map Trail.path = steps disk.kindAt? [] parts :=
    map_walk hroot parts
  cases hwalk : disk.walk [] parts with
  | error fault => exact .inl ⟨fault, rfl, by rw [← hsteps, hwalk]; rfl⟩
  | ok trail =>
    have hleads := leads_walk hroot hwalk
    exact .inr ⟨trail, rfl, by rw [← hsteps, hwalk]; rfl, entryAt?_of_leads hleads⟩

theorem steps_append (kinds : EntryPath → Option EntryKind) (path : EntryPath)
    (front back : List String) :
    steps kinds path (front ++ back) = steps kinds path front >>= fun middle =>
      steps kinds middle back := by
  induction front generalizing path with
  | nil => rfl
  | cons part rest ih =>
    rw [List.cons_append, steps, steps]
    split
    · rfl
    · split
      · exact ih path
      · split
        · exact ih path.dropLast
        · split
          · rfl
          · split
            · rfl
            · exact ih (path ++ [part])

/-! ### Places -/

theorem place_eq (disk : Disk) (path : String) :
    disk.place path = disk.usableParts path >>= placeOf disk.kindAt? := by
  rw [place]
  cases disk.usableParts path with
  | error fault => rfl
  | ok parts =>
    show (disk.walk [] (parts.reverse.dropWhile (· = "")).reverse.dropLast >>= _)
      = steps disk.kindAt? [] (parts.reverse.dropWhile (· = "")).reverse.dropLast >>= _
    rcases walk_cases disk (parts.reverse.dropWhile (· = "")).reverse.dropLast with
      ⟨fault, hwalk, hsteps⟩ | ⟨trail, hwalk, hsteps, hentry⟩
    · rw [hwalk, hsteps]
      rfl
    · have hkind := kindAt?_of_entryAt? hentry
      rw [hwalk, hsteps]
      dsimp only [bind, Except.bind]
      cases hreached : disk.reached trail with
      | file contents => rw [hkind, hreached]; rfl
      | directory entries => rw [hkind, hreached]; rfl

/-- A path without an end of slashes is what stands in front of its last part. -/
theorem placeOf_append_singleton {kinds : EntryPath → Option EntryKind} (front : List String)
    {name : String} (hname : name ≠ "") :
    placeOf kinds (front ++ [name]) = steps kinds [] front >>= fun around =>
      if kinds around ≠ some .directory then .error .notDirectory
      else if name = "." ∨ name = ".." then .error .isDirectory
      else if maxNameSize < name.utf8ByteSize then .error .nameTooLong
      else .ok (around ++ [name]) := by
  have hnamed : ((front ++ [name]).reverse.dropWhile (· = "")).reverse = front ++ [name] := by
    rw [List.reverse_append, List.reverse_singleton, List.singleton_append,
      List.dropWhile_cons_of_neg (by simpa using hname), List.reverse_cons, List.reverse_reverse]
  rw [placeOf, hnamed]
  simp

/-- A path that ends with a slash leads to no place for a file. -/
theorem placeOf_slash_ne_ok (kinds : EntryPath → Option EntryKind) (front : List String)
    (path : EntryPath) : placeOf kinds (front ++ [""]) ≠ .ok path := by
  intro h
  have hshort : ((front ++ [""]).reverse.dropWhile (· = "")).reverse.length
      < (front ++ [""]).length := by
    have hle := (List.dropWhile_suffix (· = "") (l := front.reverse)).length_le
    rw [List.length_reverse] at hle
    rw [List.reverse_append, List.reverse_singleton, List.singleton_append,
      List.dropWhile_cons_of_pos (by simp), List.length_reverse, List.length_append]
    exact Nat.lt_succ_of_le hle
  rw [placeOf] at h
  obtain ⟨around, -, h⟩ := bind_eq_ok_iff.1 h
  dsimp only at h
  rw [if_pos (Or.inl hshort)] at h
  split at h <;> cases h

/-- The last part of a path to a place is a name, and the parts before it lead to a directory. -/
theorem placeOf_eq_ok_iff {kinds : EntryPath → Option EntryKind} {parts : List String}
    {path : EntryPath} :
    placeOf kinds parts = .ok path ↔ ∃ front name around, parts = front ++ [name] ∧
      (name ≠ "" ∧ name ≠ "." ∧ name ≠ ".." ∧ name.utf8ByteSize ≤ maxNameSize) ∧
      steps kinds [] front = .ok around ∧ kinds around = some .directory ∧
      path = around ++ [name] := by
  rcases List.eq_nil_or_concat' parts with rfl | ⟨front, name, rfl⟩
  · constructor
    · intro h
      obtain ⟨around, -, h⟩ := bind_eq_ok_iff.1 h
      dsimp only at h
      split at h <;> cases h
    · rintro ⟨front, name, around, hparts, -⟩
      simp at hparts
  by_cases hname : name = ""
  · subst hname
    constructor
    · intro h
      exact absurd h (placeOf_slash_ne_ok kinds front path)
    · rintro ⟨_, name, _, hparts, ⟨hname, -⟩, -⟩
      have hlast := (List.append_inj' hparts rfl).2
      exact absurd (List.cons.inj hlast).1.symm hname
  · rw [placeOf_append_singleton front hname]
    constructor
    · intro h
      obtain ⟨around, haround, h⟩ := bind_eq_ok_iff.1 h
      split at h
      · cases h
      · next hkind =>
        split at h
        · cases h
        · next hdots =>
          split at h
          · cases h
          · next hsize =>
            obtain ⟨hdot, hdots⟩ := not_or.1 hdots
            exact ⟨front, name, around, rfl, ⟨hname, hdot, hdots, Nat.le_of_not_lt hsize⟩, haround,
              not_not.1 hkind, (Except.ok.inj h).symm⟩
    · rintro ⟨front', name', around, hparts, ⟨-, hdot, hdots, hsize⟩, haround, hkind, rfl⟩
      obtain ⟨rfl, hlast⟩ := List.append_inj' hparts rfl
      obtain rfl := (List.cons.inj hlast).1
      rw [haround]
      show (if _ then _ else _) = _
      rw [if_neg (not_not.2 hkind), if_neg (not_or.2 ⟨hdot, hdots⟩), if_neg (Nat.not_lt.2 hsize)]

/-- Only directories are walked through. -/
theorem kind_of_steps {kinds : EntryPath → Option EntryKind} {path result : EntryPath}
    {parts : List String} (h : steps kinds path parts = .ok result)
    (hresult : kinds result = some .directory) : kinds path = some .directory := by
  cases parts with
  | nil =>
    obtain rfl : path = result := Except.ok.inj h
    exact hresult
  | cons part rest =>
    rw [steps] at h
    by_contra hpath
    rw [if_pos hpath] at h
    cases h

theorem steps_of_directories {kinds larger : EntryPath → Option EntryKind}
    (hdirectories : ∀ path, kinds path = some .directory → larger path = some .directory)
    {path result : EntryPath} {parts : List String} (h : steps kinds path parts = .ok result)
    (hresult : kinds result = some .directory) : steps larger path parts = .ok result := by
  induction parts generalizing path with
  | nil => exact h
  | cons part rest ih =>
    have hpath := kind_of_steps h hresult
    rw [steps, if_neg (not_not.2 hpath)] at h
    rw [steps, if_neg (not_not.2 (hdirectories path hpath))]
    split at h
    · next hsame =>
      rw [if_pos hsame]
      exact ih h
    · next hsame =>
      rw [if_neg hsame]
      split at h
      · next hback =>
        rw [if_pos hback]
        exact ih h
      · next hback =>
        rw [if_neg hback]
        split at h
        · cases h
        · next hsize =>
          rw [if_neg hsize]
          split at h
          · cases h
          · have hnext := hdirectories _ (kind_of_steps h hresult)
            rw [if_neg (by simp [hnext])]
            exact ih h

theorem placeOf_of_directories {kinds larger : EntryPath → Option EntryKind}
    (hdirectories : ∀ path, kinds path = some .directory → larger path = some .directory)
    {parts : List String} {path : EntryPath} (h : placeOf kinds parts = .ok path) :
    placeOf larger parts = .ok path := by
  obtain ⟨front, name, around, hparts, hname, haround, hkind, hpath⟩ := placeOf_eq_ok_iff.1 h
  exact placeOf_eq_ok_iff.2 ⟨front, name, around, hparts, hname,
    steps_of_directories hdirectories haround hkind, hdirectories around hkind, hpath⟩

theorem usableParts_congr {other : Disk} (h : other.working = disk.working) (path : String) :
    other.usableParts path = disk.usableParts path := by
  rw [usableParts, usableParts, h]

/-- A place is found on every disk that has the same directories, and maybe more. -/
theorem place_of_directories {larger : Disk} (hworking : larger.working = disk.working)
    (hdirectories : ∀ path, disk.kindAt? path = some .directory →
      larger.kindAt? path = some .directory)
    {path : String} {place : EntryPath} (h : disk.place path = .ok place) :
    larger.place path = .ok place := by
  rw [place_eq] at h ⊢
  obtain ⟨parts, hparts, h⟩ := bind_eq_ok_iff.1 h
  rw [usableParts_congr hworking, hparts]
  exact placeOf_of_directories hdirectories h

theorem kindAt?_dropLast {path : EntryPath} (h : disk.kindAt? path = some .directory) :
    disk.kindAt? path.dropLast = some .directory := by
  rcases List.eq_nil_or_concat' path with rfl | ⟨front, name, rfl⟩
  · exact h
  · rw [List.dropLast_concat]
    exact kindAt?_of_append h

/-! ### Files at places -/

/-- The place of a file is where all parts of the path lead to. -/
theorem placeOf_eq_ok_iff_steps {parts : List String} {path : EntryPath}
    (h : disk.kindAt? path = some .file) :
    placeOf disk.kindAt? parts = .ok path ↔ steps disk.kindAt? [] parts = .ok path := by
  rw [placeOf_eq_ok_iff]
  constructor
  · rintro ⟨front, name, around, rfl, ⟨hname, hdot, hdots, hsize⟩, haround, hkind, rfl⟩
    rw [steps_append, haround]
    show steps disk.kindAt? around [name] = _
    rw [steps, if_neg (not_not.2 hkind), if_neg (not_or.2 ⟨hname, hdot⟩), if_neg hdots,
      if_neg (Nat.not_lt.2 hsize), if_neg (by simp [h])]
    rfl
  · intro hsteps
    rcases List.eq_nil_or_concat' parts with rfl | ⟨front, name, rfl⟩
    · obtain rfl : [] = path := Except.ok.inj hsteps
      cases h
    rw [steps_append] at hsteps
    obtain ⟨around, haround, hsteps⟩ := bind_eq_ok_iff.1 hsteps
    rw [steps] at hsteps
    split at hsteps
    · cases hsteps
    · next hkind =>
      have hkind := not_not.1 hkind
      split at hsteps
      · -- Neither a dot nor a way back ends at a file: both end at directories.
        obtain rfl : around = path := Except.ok.inj hsteps
        rw [hkind] at h
        cases h
      · next hsame =>
        obtain ⟨hname, hdot⟩ := not_or.1 hsame
        split at hsteps
        · obtain rfl : around.dropLast = path := Except.ok.inj hsteps
          rw [kindAt?_dropLast hkind] at h
          cases h
        · next hdots =>
          split at hsteps
          · cases hsteps
          · next hsize =>
            split at hsteps
            · cases hsteps
            · have hpath : around ++ [name] = path := Except.ok.inj hsteps
              exact ⟨front, name, around, rfl, ⟨hname, hdot, hdots, Nat.le_of_not_lt hsize⟩,
                haround, hkind, hpath.symm⟩

theorem read_eq_ok_iff {path : String} {contents : ByteArray} :
    disk.read path = .ok contents ↔
      ∃ place, disk.place path = .ok place ∧ disk.fileAt? place = some contents := by
  rw [read, find, place_eq]
  cases disk.usableParts path with
  | error fault => simp [bind, Except.bind]
  | ok parts =>
    show (disk.walk [] parts >>= _) = _ ↔ ∃ place, placeOf disk.kindAt? parts = .ok place ∧ _
    have hplace : ∀ place, disk.fileAt? place = some contents →
        (placeOf disk.kindAt? parts = .ok place ↔ steps disk.kindAt? [] parts = .ok place) :=
      fun place hfile => placeOf_eq_ok_iff_steps
        (isSome_fileAt?_iff.1 (Option.isSome_of_eq_some hfile))
    rw [exists_congr fun place => and_congr_left (hplace place)]
    rcases walk_cases disk parts with ⟨fault, hwalk, hsteps⟩ | ⟨trail, hwalk, hsteps, hentry⟩
    · simp [hwalk, hsteps, bind, Except.bind]
    · rw [hwalk, hsteps]
      have hfile : disk.fileAt? trail.path = (disk.reached trail).contents? := by
        rw [fileAt?, hentry, Option.bind_some]
      simp only [bind, Except.bind, Except.ok.injEq, exists_eq_left', hfile]
      cases disk.reached trail with
      | file other => simp [DiskEntry.contents?]
      | directory entries => simp [DiskEntry.contents?]

theorem contentsAt_eq (disk : Disk) (path : EntryPath) :
    disk.contentsAt path = if disk.kindAt? path = some .directory then .error .isDirectory
      else .ok ((disk.fileAt? path).getD .empty) := by
  rw [contentsAt, kindAt?, fileAt?]
  cases disk.entryAt? path with
  | none => rfl
  | some entry => cases entry <;> rfl

theorem admits_of_place {path : String} {place : EntryPath} (hplace : disk.place path = .ok place)
    (hkind : disk.kindAt? place ≠ some .directory) : disk.Admits place := by
  rw [place_eq] at hplace
  obtain ⟨parts, -, hplace⟩ := bind_eq_ok_iff.1 hplace
  obtain ⟨front, name, around, -, -, -, haround, rfl⟩ := placeOf_eq_ok_iff.1 hplace
  exact ⟨around, name, rfl, haround, hkind⟩

theorem write_eq (disk : Disk) (path : String) (contents : ByteArray) :
    disk.write path contents = disk.place path >>= fun place =>
      if disk.kindAt? place = some .directory then .error .isDirectory
      else .ok (disk.put place (.file contents)) := by
  rw [write]
  cases disk.place path with
  | error fault => rfl
  | ok place =>
    show (disk.contentsAt place >>= _) = ite _ _ _
    rw [contentsAt_eq]
    split <;> rfl

theorem append_eq (disk : Disk) (path text : String) :
    disk.append path text = disk.place path >>= fun place =>
      if disk.kindAt? place = some .directory then .error .isDirectory
      else .ok (disk.put place (.file ((disk.fileAt? place).getD .empty ++ text.toUTF8))) := by
  rw [append]
  cases disk.place path with
  | error fault => rfl
  | ok place =>
    show (disk.contentsAt place >>= _) = ite _ _ _
    rw [contentsAt_eq]
    split <;> rfl

end CollectionProfile.Disk
