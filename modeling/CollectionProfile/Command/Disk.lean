import CollectionProfile.Failure

/-!
# Disks

A disk is a tree of directories and files. Absolute paths set out from its root directory, relative
ones from the working directory. Files are read and written, and directories made, with the faults
that a file system reports.
-/

namespace CollectionProfile

/-- What stands at a path. -/
inductive DiskEntry
  | file (contents : ByteArray)
  | directory (entries : List (String × DiskEntry))
deriving Inhabited

/-- What is in a directory, by names. -/
abbrev Directory := List (String × DiskEntry)

/-- The names of the directories from the root to an entry, and the entry's own name. -/
abbrev EntryPath := List String

/-- A disk, as its root directory. -/
structure Disk where
  root : Directory
  /-- The path of the directory that relative paths set out from. -/
  working : EntryPath := []
deriving Inhabited

namespace Directory

/-- The directory with an entry of a name, in place of an older one. -/
def set (directory : Directory) (name : String) (entry : DiskEntry) : Directory :=
  match directory with
  | [] => [(name, entry)]
  | (other, old) :: rest =>
    if other = name then (name, entry) :: rest else (other, old) :: Directory.set rest name entry

/-- The directory with an entry put at a path below it. Without the directories around the entry,
nothing is put. -/
def put (directory : Directory) (entry : DiskEntry) : EntryPath → Directory
  | [] => directory
  | [name] => directory.set name entry
  | name :: rest =>
    match directory.lookup name with
    | some (.directory inner) => directory.set name (.directory (Directory.put inner entry rest))
    | _ => directory

end Directory

namespace DiskEntry

/-- What stands at a path below an entry, if anything does. -/
def entryAt? (entry : DiskEntry) : EntryPath → Option DiskEntry
  | [] => some entry
  | name :: rest =>
    match entry with
    | .file _ => none
    | .directory entries => (entries.lookup name).bind (DiskEntry.entryAt? · rest)

mutual

/-- The files at and below an entry, with their paths, where the entry has a path itself. -/
def files (path : EntryPath) : DiskEntry → List (EntryPath × ByteArray)
  | .file contents => [(path, contents)]
  | .directory entries => filesIn path entries

/-- The files in and below a directory that has a path. -/
def filesIn (path : EntryPath) : Directory → List (EntryPath × ByteArray)
  | [] => []
  | (name, entry) :: rest => files (path ++ [name]) entry ++ filesIn path rest

end

end DiskEntry

/-- The entries from one that has been reached up to the root, without the root. -/
abbrev Trail := List (String × DiskEntry)

/-- The path that a trail has come. -/
def Trail.path (trail : Trail) : EntryPath := (trail.map (·.1)).reverse

namespace Disk

/-- The disk with nothing on it. -/
def empty : Disk := { root := [] }

/-- The disk with nothing on it but an empty working directory of a name. -/
def withWorkingDirectory (name : String) : Disk :=
  { root := [(name, .directory [])], working := [name] }

/-- What stands at a path, if anything does. -/
def entryAt? (disk : Disk) (path : EntryPath) : Option DiskEntry :=
  (DiskEntry.directory disk.root).entryAt? path

/-- The disk with an entry put at a path, in place of what stood there. -/
def put (disk : Disk) (path : EntryPath) (entry : DiskEntry) : Disk :=
  { disk with root := disk.root.put entry path }

/-- All files in and below the working directory, with their paths from there. -/
def files (disk : Disk) : List (EntryPath × ByteArray) :=
  (disk.entryAt? disk.working).elim [] (·.files [])

/-- What a trail has come to. -/
def reached (disk : Disk) (trail : Trail) : DiskEntry :=
  match trail with
  | [] => .directory disk.root
  | (_, entry) :: _ => entry

/-! ### Written paths -/

/-- The parts of a written path between slashes. -/
def parts (path : String) : List String :=
  (path.toList.foldr (fun c parts =>
    match parts with
    | [] => [[c]]
    | part :: rest => if c = '/' then [] :: part :: rest else (c :: part) :: rest) [[]]).map
      String.ofList

/-- The path of a file in a directory, as it is written. -/
def join (directory name : String) : String :=
  if directory = "" then name
  else if directory.toList.getLast? = some '/' then directory ++ name
  else directory ++ "/" ++ name

/-- The longest name of an entry, in bytes. -/
def maxNameSize : Nat := 255

/-- The longest written path, in bytes. -/
def maxPathSize : Nat := 4095

/-- Whether a written path sets out from the root directory. -/
def isAbsolute (path : String) : Bool := path.toList.head? = some '/'

/-- The parts of a path that can lead anywhere, all the way from the root directory. -/
def usableParts (disk : Disk) (path : String) : Except FileFault (List String) :=
  if path = "" then .error .notFound
  else if maxPathSize < path.utf8ByteSize then .error .nameTooLong
  else .ok (if isAbsolute path then parts path else disk.working ++ parts path)

/-- The trail that goes on from another one by further parts. Every part but the last must lead to a
directory. -/
def walk (disk : Disk) (trail : Trail) : List String → Except FileFault Trail
  | [] => .ok trail
  | part :: rest =>
    match disk.reached trail with
    | .file _ => .error .notDirectory
    | .directory entries =>
      if part = "" ∨ part = "." then disk.walk trail rest
      else if part = ".." then disk.walk (trail.drop 1) rest
      else if maxNameSize < part.utf8ByteSize then .error .nameTooLong
      else match entries.lookup part with
        | some entry => disk.walk ((part, entry) :: trail) rest
        | none => .error .notFound

/-- The trail to what stands at a written path. -/
def find (disk : Disk) (path : String) : Except FileFault Trail := do
  disk.walk [] (← disk.usableParts path)

/-- The place that a written path leads to, whether or not anything stands there yet; only what is
around it must exist. A path that ends with a slash or a dot is taken for a directory. -/
def place (disk : Disk) (path : String) : Except FileFault EntryPath := do
  let parts ← disk.usableParts path
  -- Slashes at the end do not count as a name.
  let named := (parts.reverse.dropWhile (· = "")).reverse
  let parent ← disk.walk [] named.dropLast
  let name := named.getLastD "."
  match disk.reached parent with
  | .file _ => .error .notDirectory
  | .directory _ =>
    if named.length < parts.length ∨ name = "." ∨ name = ".." then .error .isDirectory
    else if maxNameSize < name.utf8ByteSize then .error .nameTooLong
    else .ok (Trail.path parent ++ [name])

/-! ### Files -/

/-- The contents of a file. -/
def read (disk : Disk) (path : String) : Except FileFault ByteArray := do
  match disk.reached (← disk.find path) with
  | .file contents => .ok contents
  | .directory _ => .error .isDirectory

/-- The contents of the file at a place, empty where nothing stands yet. -/
def contentsAt (disk : Disk) (path : EntryPath) : Except FileFault ByteArray :=
  match disk.entryAt? path with
  | some (.file contents) => .ok contents
  | some (.directory _) => .error .isDirectory
  | none => .ok .empty

/-- The disk after a file was written, in place of an older one. -/
def write (disk : Disk) (path : String) (contents : ByteArray) : Except FileFault Disk := do
  let place ← disk.place path
  let _ ← disk.contentsAt place
  return disk.put place (.file contents)

/-- The disk after a text was added to the end of a file, which is made where it is missing. -/
def append (disk : Disk) (path : String) (text : String) : Except FileFault Disk := do
  let place ← disk.place path
  let contents ← disk.contentsAt place
  return disk.put place (.file (contents ++ text.toUTF8))

/-! ### Directories -/

/-- Whether the parts of a path lead to a directory. -/
def isDirectory (disk : Disk) (parts : List String) : Bool :=
  match disk.walk [] parts with
  | .error _ => false
  | .ok trail =>
    match disk.reached trail with
    | .file _ => false
    | .directory _ => true

/-- The disk after one directory was made. -/
def makeDirectory (disk : Disk) (parts : List String) : Except FileFault Disk := do
  let parent ← disk.walk [] parts.dropLast
  let name := parts.getLastD "."
  match disk.reached parent with
  | .file _ => .error .notDirectory
  | .directory entries =>
    if name = "." ∨ name = ".." then .error .alreadyExists
    else if maxNameSize < name.utf8ByteSize then .error .nameTooLong
    else if (entries.lookup name).isSome then .error .alreadyExists
    else .ok (disk.put (Trail.path parent ++ [name]) (.directory []))

/-- The disk after a directory was made unless it was there. -/
def ensureDirectory (disk : Disk) (parts : List String) : Except FileFault Disk :=
  match disk.makeDirectory parts with
  | .ok made => .ok made
  | .error fault => if disk.isDirectory parts then .ok disk else .error fault

/-- The parts of the path around a path, for both with the last part first. Dots at the end of
either path do not count. -/
def around (reversed : List String) : List String :=
  ((reversed.dropWhile (· = ".")).drop 1).dropWhile (· = ".")

theorem length_around_le (part : String) (outer : List String) :
    (around (part :: outer)).length ≤ outer.length := by
  have h₁ := (List.dropWhile_suffix (· = ".") (l := part :: outer)).length_le
  have h₂ := (List.dropWhile_suffix (· = ".")
    (l := ((part :: outer).dropWhile (· = ".")).drop 1)).length_le
  simp only [List.length_drop, List.length_cons] at h₁ h₂
  simp only [around]
  omega

/-- The disk after a directory and the directories around it were made as far as they were missing.
The parts of its path are given with the last one first. -/
def makeAll (disk : Disk) : List String → Except FileFault Disk
  | [] => .ok disk
  | part :: outer =>
    let parts := (part :: outer).reverse
    match disk.makeDirectory parts with
    | .ok made => .ok made
    -- What is around the directory is missing and made first.
    | .error .notFound => do
      have := length_around_le part outer
      (← disk.makeAll (around (part :: outer))).ensureDirectory parts
    | .error fault => if disk.isDirectory parts then .ok disk else .error fault
termination_by reversed => reversed.length

/-- The disk after the directory at a written path, and those around it, were made. At the empty
path there is nothing to make. -/
def makeDirectories (disk : Disk) (path : String) : Except FileFault Disk :=
  if path = "" then .ok disk
  else do disk.makeAll ((← disk.usableParts path).filter (· ≠ "")).reverse

end Disk

end CollectionProfile
