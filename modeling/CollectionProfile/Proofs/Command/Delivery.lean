import CollectionProfile.Delivery.Artifact
import CollectionProfile.Proofs.Command.Directories

/-!
# Artifacts on a disk

Artifacts that are written one after another stand on the disk with their own contents, unless a
later one leads to the same file, and no other file changes (`delivered_of_deliverAll`). The file of
a log may be written to all the while: it is left out of what is said about the disk.
-/

namespace CollectionProfile

/-- The path that an artifact is written to in a directory. -/
def Artifact.pathIn (directory : String) (artifact : Artifact) : String :=
  Disk.join directory artifact.fileName

/-- What the file of an artifact is to hold. -/
def Artifact.bytes (artifact : Artifact) : ByteArray := artifact.contents.toUTF8

namespace Disk

open Markup (bind_eq_ok_iff)

/-- The disk after an artifact was written to a directory, which is made where it is missing. -/
def deliver (directory : String) (disk : Disk) (artifact : Artifact) : Except FileFault Disk := do
  (← disk.makeDirectories directory).write (artifact.pathIn directory) artifact.bytes

/-- The disk after artifacts were written to a directory, one after another. -/
def deliverAll (directory : String) (disk : Disk) (artifacts : List Artifact) :
    Except FileFault Disk :=
  artifacts.foldlM (deliver directory) disk

/-- Of artifacts that are written one after another, the one at `i` is the first that cannot be
written, once the disk has come to `reached`. -/
def StopsAt (directory : String) (disk : Disk) (artifacts : List Artifact) (i : Nat)
    (reached : Disk) : Prop :=
  disk.deliverAll directory (artifacts.take i) = .ok reached ∧
    ∃ artifact fault, artifacts[i]? = some artifact ∧
      reached.deliver directory artifact = .error fault

/-- The disk on which the file of a log, if there is one, is ready to be written to. -/
def openLog (log : Option String) (disk : Disk) : Except FileFault Disk :=
  match log with
  | some path => disk.append path ""
  | none => .ok disk

/-- Both paths lead to the same place. -/
def SamePlace (disk : Disk) (path other : String) : Prop :=
  ∃ place, disk.place path = .ok place ∧ disk.place other = .ok place

/-- The disk has come from another one by writing exactly these artifacts, and the log. -/
structure Delivered (log : Option String) (directory : String) (artifacts : List Artifact)
    (before after : Disk) : Prop where
  /-- An artifact is there with its own bytes, unless a later one or the log went to the same
  place. -/
  written : ∀ earlier artifact later, artifacts = earlier ++ artifact :: later →
    (∀ other ∈ later, ¬ after.SamePlace (artifact.pathIn directory) (other.pathIn directory)) →
    (∀ path, log = some path → ¬ after.SamePlace (artifact.pathIn directory) path) →
    after.read (artifact.pathIn directory) = .ok artifact.bytes
  /-- There are no other files than before, and they have not changed. -/
  elsewhere : ∀ place,
    (∀ artifact ∈ artifacts, after.place (artifact.pathIn directory) ≠ .ok place) →
    (∀ path, log = some path → after.place path ≠ .ok place) →
    after.fileAt? place = before.fileAt? place

variable {disk other after : Disk} {apart : Option EntryPath} {log : Option String}
  {directory : String}

/-! ### Writing -/

theorem alike_write (h : Agrees apart disk other) (path : String) (contents : ByteArray) :
    Alike apart (disk.write path contents) (other.write path contents) := by
  rw [write_eq, write_eq, h.place, h.kinds]
  cases hplace : disk.place path with
  | error fault => exact .error fault
  | ok place =>
    show Alike apart (if _ then _ else _) (if _ then _ else _)
    split
    · exact .error .isDirectory
    · next hkind => exact .ok (h.put_file (admits_of_place hplace hkind) contents)

theorem bind_place_eq_ok_iff {path : String} {contents : EntryPath → ByteArray} :
    (disk.place path >>= fun place =>
      if disk.kindAt? place = some .directory then .error .isDirectory
      else .ok (disk.put place (.file (contents place)))) = .ok after ↔
    ∃ place, disk.place path = .ok place ∧ disk.Admits place ∧
      after = disk.put place (.file (contents place)) := by
  rw [bind_eq_ok_iff]
  refine exists_congr fun place => and_congr_right fun hplace => ?_
  split
  · next hkind =>
    constructor
    · intro h
      cases h
    · rintro ⟨⟨around, name, -, -, hfree⟩, -⟩
      exact absurd hkind hfree
  · next hkind =>
    rw [Except.ok.injEq, eq_comm, and_iff_right (admits_of_place hplace hkind)]

theorem write_eq_ok_iff {path : String} {contents : ByteArray} :
    disk.write path contents = .ok after ↔ ∃ place, disk.place path = .ok place ∧
      disk.Admits place ∧ after = disk.put place (.file contents) := by
  rw [write_eq, bind_place_eq_ok_iff]

theorem append_eq_ok_iff {path text : String} :
    disk.append path text = .ok after ↔ ∃ place, disk.place path = .ok place ∧
      disk.Admits place ∧
      after = disk.put place (.file ((disk.fileAt? place).getD .empty ++ text.toUTF8)) := by
  rw [append_eq, bind_place_eq_ok_iff]

/-! ### Delivering -/

theorem of_deliver {artifact : Artifact} (h : disk.deliver directory artifact = .ok after) :
    disk.Extends after ∧ ∃ place, after.place (artifact.pathIn directory) = .ok place ∧
      ∀ path, after.fileAt? path
        = if path = place then some artifact.bytes else disk.fileAt? path := by
  obtain ⟨larger, hlarger, hwrite⟩ := bind_eq_ok_iff.1 h
  obtain ⟨hextends, hfiles⟩ := grows_of_makeDirectories hlarger
  obtain ⟨place, hplace, hadmits, rfl⟩ := write_eq_ok_iff.1 hwrite
  have hput := extends_put_file hadmits artifact.bytes
  refine ⟨hextends.trans hput, place, hput.place hplace, fun path => ?_⟩
  rw [fileAt?_put_file hadmits, hfiles]

theorem deliverAll_cons (directory : String) (disk : Disk) (artifact : Artifact)
    (rest : List Artifact) :
    disk.deliverAll directory (artifact :: rest)
      = disk.deliver directory artifact >>= (·.deliverAll directory rest) := rfl

theorem deliverAll_append (directory : String) (disk : Disk) (front back : List Artifact) :
    disk.deliverAll directory (front ++ back)
      = disk.deliverAll directory front >>= (·.deliverAll directory back) :=
  List.foldlM_append

/-- Past the artifact that cannot be written nothing is delivered any more. -/
theorem StopsAt.error {artifacts : List Artifact} {i : Nat} {reached : Disk}
    (h : StopsAt directory disk artifacts i reached) {count : Nat} (hcount : i < count) :
    ∃ fault, disk.deliverAll directory (artifacts.take count) = .error fault := by
  obtain ⟨hreached, artifact, fault, hartifact, hfault⟩ := h
  obtain ⟨hlength, rfl⟩ := List.getElem?_eq_some_iff.1 hartifact
  refine ⟨fault, ?_⟩
  have htake : artifacts.take count
      = artifacts.take i ++ artifacts[i] :: (artifacts.drop (i + 1)).take (count - i - 1) := by
    obtain ⟨more, rfl⟩ := Nat.exists_eq_add_of_lt hcount
    have hsub : i + more + 1 - i - 1 = more := by omega
    rw [hsub, Nat.add_assoc, List.take_add, List.drop_eq_getElem_cons hlength, List.take_succ_cons]
  rw [htake, deliverAll_append, hreached]
  show reached.deliverAll directory (_ :: _) = _
  rw [deliverAll_cons, hfault]
  rfl

theorem StopsAt.unique {artifacts : List Artifact} {i j : Nat} {reached other : Disk}
    (h : StopsAt directory disk artifacts i reached)
    (hother : StopsAt directory disk artifacts j other) : i = j := by
  rcases Nat.lt_trichotomy i j with hlt | heq | hlt
  · obtain ⟨fault, hfault⟩ := h.error hlt
    rw [hother.1] at hfault
    cases hfault
  · exact heq
  · obtain ⟨fault, hfault⟩ := hother.error hlt
    rw [h.1] at hfault
    cases hfault

theorem not_stopsAt_of_deliverAll {artifacts : List Artifact}
    (h : disk.deliverAll directory artifacts = .ok after) (i : Nat) (reached : Disk) :
    ¬ StopsAt directory disk artifacts i reached := by
  intro hstops
  obtain ⟨-, artifact, -, hartifact, -⟩ := id hstops
  obtain ⟨hlength, -⟩ := List.getElem?_eq_some_iff.1 hartifact
  obtain ⟨fault, hfault⟩ := hstops.error hlength
  rw [List.take_length, h] at hfault
  cases hfault

theorem extends_of_deliverAll {artifacts : List Artifact}
    (h : disk.deliverAll directory artifacts = .ok after) : disk.Extends after := by
  induction artifacts generalizing disk with
  | nil =>
    obtain rfl : disk = after := Except.ok.inj h
    exact Extends.refl disk
  | cons artifact rest ih =>
    obtain ⟨next, hnext, h⟩ := bind_eq_ok_iff.1 h
    exact (of_deliver hnext).1.trans (ih h)

theorem delivered_of_deliverAll {artifacts : List Artifact}
    (h : disk.deliverAll directory artifacts = .ok after) :
    Delivered none directory artifacts disk after := by
  induction artifacts generalizing disk with
  | nil =>
    obtain rfl : disk = after := Except.ok.inj h
    refine ⟨fun earlier artifact later hsplit _ _ => ?_, fun _ _ _ => rfl⟩
    simp at hsplit
  | cons artifact rest ih =>
    obtain ⟨next, hnext, h⟩ := bind_eq_ok_iff.1 h
    obtain ⟨-, place, hplace, hfiles⟩ := of_deliver hnext
    have hplace := (extends_of_deliverAll h).place hplace
    obtain ⟨hwritten, helsewhere⟩ := ih h
    constructor
    case written =>
      intro earlier written later hsplit hlater hlog
      cases earlier with
      | nil =>
        obtain ⟨rfl, rfl⟩ := List.cons.inj hsplit
        have hkept : after.fileAt? place = next.fileAt? place := by
          apply helsewhere
          · intro other hother hsame
            exact hlater other hother ⟨place, hplace, hsame⟩
          · intro path hpath
            cases hpath
        rw [hfiles, if_pos rfl] at hkept
        exact read_eq_ok_iff.2 ⟨place, hplace, hkept⟩
      | cons first earlier =>
        exact hwritten earlier written later (List.cons.inj hsplit).2 hlater hlog
    case elsewhere =>
      intro path hpath hlog
      rw [helsewhere path (fun other hother => hpath other (List.mem_cons_of_mem _ hother)) hlog,
        hfiles, if_neg]
      rintro rfl
      exact hpath artifact List.mem_cons_self hplace

/-- Directories that are made later do not count as files. -/
theorem Delivered.grow {artifacts : List Artifact} {larger : Disk}
    (h : Delivered none directory artifacts disk after) (hextends : after.Extends larger)
    (hfiles : larger.fileAt? = after.fileAt?) : Delivered none directory artifacts disk larger := by
  constructor
  case written =>
    intro earlier artifact later hsplit hlater hlog
    have hread : after.read (artifact.pathIn directory) = .ok artifact.bytes := by
      refine h.written earlier artifact later hsplit ?_ nofun
      rintro other hother ⟨place, hplace, hsame⟩
      exact hlater other hother ⟨place, hextends.place hplace, hextends.place hsame⟩
    obtain ⟨place, hplace, hfile⟩ := read_eq_ok_iff.1 hread
    exact read_eq_ok_iff.2 ⟨place, hextends.place hplace, by rw [hfiles, hfile]⟩
  case elsewhere =>
    intro place hplace hlog
    rw [hfiles]
    refine h.elsewhere place (fun artifact hartifact hsame => ?_) nofun
    exact hplace artifact hartifact (hextends.place hsame)

/-! ### Beside a log -/

/-- The place apart is that of the log, and there is a file at it. -/
structure KeepsLog (log : Option String) (apart : Option EntryPath) (disk : Disk) : Prop where
  without : log = none → apart = none
  file : ∀ path, log = some path →
    ∃ place, apart = some place ∧ disk.place path = .ok place ∧ disk.kindAt? place = some .file

/-- The disk differs from the one before at most by the file of the log. -/
structure LogOpened (log : Option String) (apart : Option EntryPath) (before opened : Disk) :
    Prop where
  keeps : KeepsLog log apart opened
  grows : before.Extends opened
  directories : ∀ path, opened.kindAt? path = some .directory →
    before.kindAt? path = some .directory
  files : ∀ path, apart ≠ some path → opened.fileAt? path = before.fileAt? path

namespace KeepsLog

theorem mono (h : KeepsLog log apart disk) (hextends : disk.Extends after) :
    KeepsLog log apart after := by
  refine ⟨h.without, fun path hpath => ?_⟩
  obtain ⟨place, hapart, hplace, hkind⟩ := h.file path hpath
  exact ⟨place, hapart, hextends.place hplace, hextends.kinds place .file hkind⟩

theorem agrees (h : KeepsLog log apart disk) (hagrees : Agrees apart disk other) :
    KeepsLog log apart other := by
  refine ⟨h.without, fun path hpath => ?_⟩
  obtain ⟨place, hapart, hplace, hkind⟩ := h.file path hpath
  exact ⟨place, hapart, by rw [hagrees.place, hplace], by rw [hagrees.kinds, hkind]⟩

theorem ne (h : KeepsLog log apart disk) {place : EntryPath}
    (hplace : ∀ path, log = some path → disk.place path ≠ .ok place) : apart ≠ some place := by
  cases log with
  | none =>
    rw [h.without rfl]
    exact Option.some_ne_none place |>.symm
  | some path =>
    obtain ⟨found, rfl, hfound, -⟩ := h.file path rfl
    intro heq
    obtain rfl := Option.some.inj heq
    exact hplace path rfl hfound

/-- Whatever is added to the log, the disk stays the same but for what the log holds. -/
theorem agrees_append {path text : String} (h : KeepsLog (some path) apart disk)
    (happend : disk.append path text = .ok after) : Agrees apart disk after := by
  obtain ⟨place, rfl, hplace, hkind⟩ := h.file path rfl
  obtain ⟨found, hfound, hadmits, rfl⟩ := append_eq_ok_iff.1 happend
  obtain rfl := Except.ok.inj (hplace.symm.trans hfound)
  refine ⟨rfl, funext fun other => ?_, fun other hother => ?_⟩
  · rw [kindAt?_put_file hadmits]
    split
    · next heq => rw [heq, hkind]
    · rfl
  · rw [fileAt?_put_file hadmits, if_neg]
    rintro rfl
    exact hother rfl

end KeepsLog

theorem exists_logOpened {opened : Disk} (h : openLog log disk = .ok opened) :
    ∃ apart, LogOpened log apart disk opened := by
  cases log with
  | none =>
    obtain rfl : disk = opened := Except.ok.inj h
    refine ⟨none, ⟨fun _ => rfl, ?_⟩, Extends.refl disk, fun _ h => h, fun _ _ => rfl⟩
    intro path hpath
    cases hpath
  | some path =>
    obtain ⟨place, hplace, hadmits, rfl⟩ := append_eq_ok_iff.1 h
    have hextends := extends_put_file hadmits ((disk.fileAt? place).getD .empty ++ "".toUTF8)
    refine ⟨some place, ⟨fun hnone => ?_, fun other hother => ?_⟩, hextends, fun other hkind => ?_,
      fun other hother => ?_⟩
    · cases hnone
    · obtain rfl := Option.some.inj hother
      refine ⟨place, rfl, hextends.place hplace, ?_⟩
      rw [kindAt?_put_file hadmits, if_pos rfl]
    · rw [kindAt?_put_file hadmits] at hkind
      split at hkind
      · cases hkind
      · exact hkind
    · rw [fileAt?_put_file hadmits, if_neg]
      rintro rfl
      exact hother rfl

namespace LogOpened

variable {before opened : Disk}

/-- What another file holds is read alike before the log was opened and after. -/
theorem read_eq_ok_iff (h : LogOpened log apart before opened) {path : String}
    (hpath : ∀ other, log = some other → ¬ opened.SamePlace path other) {contents : ByteArray} :
    opened.read path = .ok contents ↔ before.read path = .ok contents := by
  rw [Disk.read_eq_ok_iff, Disk.read_eq_ok_iff]
  have hfile : ∀ {place}, opened.place path = .ok place →
      opened.fileAt? place = before.fileAt? place := by
    intro place hplace
    refine h.files place (h.keeps.ne ?_)
    intro other hother hsame
    exact hpath other hother ⟨place, hplace, hsame⟩
  constructor
  · rintro ⟨place, hplace, hcontents⟩
    refine ⟨place, place_of_directories h.grows.working.symm h.directories hplace, ?_⟩
    rw [← hfile hplace, hcontents]
  · rintro ⟨place, hplace, hcontents⟩
    have hplace := h.grows.place hplace
    exact ⟨place, hplace, by rw [hfile hplace, hcontents]⟩

/-- Artifacts are delivered on the disk that also has the log as on the disk that has not. -/
theorem delivered (h : LogOpened log apart before opened) {artifacts : List Artifact}
    {written : Disk} (hextends : opened.Extends written)
    (hdelivered : Delivered none directory artifacts opened written)
    (hagrees : Agrees apart written after) : Delivered log directory artifacts before after := by
  have hafter := (h.keeps.mono hextends).agrees hagrees
  constructor
  case written =>
    intro earlier artifact later hsplit hlater hlog
    have hread : written.read (artifact.pathIn directory) = .ok artifact.bytes := by
      refine hdelivered.written earlier artifact later hsplit ?_ nofun
      rintro other hother ⟨place, hplace, hsame⟩
      rw [← hagrees.place] at hplace hsame
      exact hlater other hother ⟨place, hplace, hsame⟩
    obtain ⟨place, hplace, hfile⟩ := Disk.read_eq_ok_iff.1 hread
    rw [← hagrees.place] at hplace
    refine Disk.read_eq_ok_iff.2 ⟨place, hplace, ?_⟩
    rw [hagrees.files place, hfile]
    refine hafter.ne fun path hpath hsame => ?_
    exact hlog path hpath ⟨place, hplace, hsame⟩
  case elsewhere =>
    intro place hplace hlog
    have hapart := hafter.ne hlog
    rw [hagrees.files place hapart, ← h.files place hapart]
    refine hdelivered.elsewhere place (fun artifact hartifact => ?_) nofun
    rw [← hagrees.place]
    exact hplace artifact hartifact

end LogOpened

end Disk

end CollectionProfile
