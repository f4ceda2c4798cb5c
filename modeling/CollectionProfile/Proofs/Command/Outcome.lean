import CollectionProfile.Proofs.Command.Batch
import CollectionProfile.Proofs.Command.Run
import CollectionProfile.Proofs.Delivery.SchemaDocument

/-!
# How commands end

The exit status of a command, what it prints and what it leaves on the disk are told by what its
profile holds and by which of its artifacts can be written (`start_outcome`). The log file is left
out of what is said about the disk.
-/

namespace CollectionProfile.Command

open Disk (Agrees Delivered LogOpened)

/-- The artifacts that are asked for, as a session gives them that was to load the profile. -/
def Invocation.artifacts (invocation : Invocation) (disk : Disk) : Except Failure (List Artifact) :=
  invocation.request.artifacts (Session.new.loadFile (disk.read invocation.profile)).1

/-- What a run of an invocation comes to, given the disk on which its log has been opened. -/
structure Outcome (invocation : Invocation) (opened : Disk) (before : Machine)
    (status : ExitStatus) (after : Machine) : Prop where
  /-- It is refused when the profile loads and the request names a table that it does not have. -/
  refusal_iff : status = .refusal ↔
    ∃ schema, Loads before.disk invocation.profile schema ∧ invocation.request.Misses schema
  /-- It fails when the profile does not load, or an artifact cannot be written. -/
  failure_iff : status = .failure ↔
    (∀ schema, ¬ Loads before.disk invocation.profile schema) ∨
      ∃ artifacts i reached, invocation.artifacts before.disk = .ok artifacts ∧
        opened.StopsAt invocation.request.directory artifacts i reached
  otherwise : status = .refusal ∨ status = .failure ∨ status = .success
  /-- Without a schema, or without the table, nothing is printed or written. -/
  untouched :
    status = .refusal ∨ (∀ schema, ¬ Loads before.disk invocation.profile schema) →
      after.out = before.out ∧
        Delivered invocation.logging.file invocation.request.directory [] before.disk after.disk
  /-- Where an artifact cannot be written, those before it have been, and nothing is printed. -/
  stopped : ∀ artifacts i reached, invocation.artifacts before.disk = .ok artifacts →
    opened.StopsAt invocation.request.directory artifacts i reached →
      after.out = before.out ∧
        Delivered invocation.logging.file invocation.request.directory (artifacts.take i)
          before.disk after.disk
  delivered : status = .success →
    ∃ artifacts, invocation.artifacts before.disk = .ok artifacts ∧
      Delivered invocation.logging.file invocation.request.directory artifacts before.disk
        after.disk

theorem run_run (invocation : Invocation) (directives : Option String) (machine : Machine) :
    (run invocation directives : StateM Machine ExitStatus).run machine
      = match runOn (perform invocation directives) machine with
        | (.ok (), next) => (.success, next)
        | (.error problem, next) =>
          (problem.exitStatus, { next with err := next.err ++ problem.line }) := by
  rw [run, run_bind_state, runOn]
  obtain ⟨result, next⟩ :=
    (perform invocation directives : ExceptT Problem (StateM Machine) Unit).run.run machine
  cases result with
  | ok _ => rfl
  | error problem => rfl

theorem exitStatus_of_missing {problem : Problem} (h : problem.isMissingSelection = true) :
    problem.exitStatus = .refusal := if_pos h

theorem exitStatus_of_not_missing {problem : Problem} (h : problem.isMissingSelection = false) :
    problem.exitStatus = .failure := by
  rw [Problem.exitStatus, h]
  rfl

theorem Stands.printError {log : Option String} {apart : Option EntryPath} {out : String}
    {disk : Disk} {machine : Machine} (h : Stands log apart out disk machine) (text : String) :
    Stands log apart out disk { machine with err := machine.err ++ text } :=
  ⟨h.out, h.keeps, h.agrees⟩

/-- Before the log was opened the profile loads as it does after. -/
theorem loads_iff {log : Option String} {apart : Option EntryPath} {before opened : Disk}
    (hlog : LogOpened log apart before opened) {path : String}
    (hpath : ∀ other, log = some other → ¬ opened.SamePlace path other) (schema : Schema) :
    Loads opened path schema ↔ Loads before path schema := by
  simp only [Loads, hlog.read_eq_ok_iff hpath]

theorem Loads.unique {disk : Disk} {path : String} {schema other : Schema}
    (h : Loads disk path schema) (hother : Loads disk path other) : schema = other := by
  have hboth := (loadFile_of_loads h).symm.trans (loadFile_of_loads hother)
  exact Except.ok.inj (Prod.ext_iff.1 hboth).2

theorem artifacts_of_loads {invocation : Invocation} {disk : Disk} {schema : Schema}
    (h : Loads disk invocation.profile schema) :
    invocation.artifacts disk = invocation.request.artifacts ⟨some schema⟩ := by
  rw [Invocation.artifacts, loadFile_of_loads h]

section Ends

variable {invocation : Invocation} {apart : Option EntryPath} {opened : Disk}
  {before next : Machine} (hlog : LogOpened invocation.logging.file apart before.disk opened)

include hlog

theorem delivered_nil {out : String}
    (h : Stands invocation.logging.file apart out opened next) :
    Delivered invocation.logging.file invocation.request.directory [] before.disk next.disk :=
  hlog.delivered (Disk.Extends.refl opened) (Disk.delivered_of_deliverAll rfl) h.agrees

theorem outcome_unloaded (hnone : ∀ schema, ¬ Loads before.disk invocation.profile schema)
    (h : Stands invocation.logging.file apart before.out opened next) :
    Outcome invocation opened before .failure next := by
  have hartifacts : ∀ artifacts, invocation.artifacts before.disk = .ok artifacts →
      artifacts = [] := by
    obtain ⟨failure, hload, -⟩ := loadFile_of_not_loads hnone
    intro artifacts heq
    rw [Invocation.artifacts, hload] at heq
    exact artifacts_new heq
  constructor
  case refusal_iff =>
    refine iff_of_false (by decide) ?_
    rintro ⟨schema, hschema, -⟩
    exact hnone schema hschema
  case failure_iff => exact iff_of_true rfl (.inl hnone)
  case otherwise => exact .inr (.inl rfl)
  case untouched => exact fun _ => ⟨h.out, delivered_nil hlog h⟩
  case stopped =>
    intro artifacts i reached heq hstops
    obtain rfl := hartifacts artifacts heq
    exact absurd hstops (Disk.not_stopsAt_of_deliverAll rfl i reached)
  case delivered =>
    intro hsuccess
    exact absurd hsuccess (by decide)

variable {schema : Schema} (hschema : Loads before.disk invocation.profile schema)

include hschema

theorem outcome_refused (hmisses : invocation.request.Misses schema)
    (h : Stands invocation.logging.file apart before.out opened next) :
    Outcome invocation opened before .refusal next := by
  have hartifacts : ∀ artifacts, invocation.artifacts before.disk = .ok artifacts →
      artifacts = [] := by
    intro artifacts heq
    rw [artifacts_of_loads hschema] at heq
    exact artifacts_of_misses hmisses heq
  have hstops : ∀ artifacts i reached, invocation.artifacts before.disk = .ok artifacts →
      ¬ opened.StopsAt invocation.request.directory artifacts i reached := by
    intro artifacts i reached heq
    obtain rfl := hartifacts artifacts heq
    exact Disk.not_stopsAt_of_deliverAll rfl i reached
  constructor
  case refusal_iff => exact iff_of_true rfl ⟨schema, hschema, hmisses⟩
  case failure_iff =>
    refine iff_of_false (by decide) ?_
    rintro (hnone | ⟨artifacts, i, reached, heq, hstop⟩)
    · exact hnone schema hschema
    · exact hstops artifacts i reached heq hstop
  case otherwise => exact .inl rfl
  case untouched => exact fun _ => ⟨h.out, delivered_nil hlog h⟩
  case stopped =>
    intro artifacts i reached heq hstop
    exact absurd hstop (hstops artifacts i reached heq)
  case delivered =>
    intro hsuccess
    exact absurd hsuccess (by decide)

variable (hknown : ¬ invocation.request.Misses schema)

omit hlog in
include hknown in
theorem not_exists_misses : ¬ ∃ schema, Loads before.disk invocation.profile schema ∧
    invocation.request.Misses schema := by
  rintro ⟨other, hother, hmisses⟩
  obtain rfl := hschema.unique hother
  exact hknown hmisses

include hknown

theorem outcome_stopped {artifacts : List Artifact} {i : Nat} {reached larger : Disk}
    (hartifacts : invocation.request.artifacts ⟨some schema⟩ = .ok artifacts)
    (hstops : opened.StopsAt invocation.request.directory artifacts i reached)
    (hgrows : reached.Extends larger ∧ larger.fileAt? = reached.fileAt?)
    (h : Stands invocation.logging.file apart before.out larger next) :
    Outcome invocation opened before .failure next := by
  have heq := (artifacts_of_loads hschema).trans hartifacts
  have hdelivered : Delivered invocation.logging.file invocation.request.directory
      (artifacts.take i) before.disk next.disk :=
    hlog.delivered ((Disk.extends_of_deliverAll hstops.1).trans hgrows.1)
      ((Disk.delivered_of_deliverAll hstops.1).grow hgrows.1 hgrows.2) h.agrees
  constructor
  case refusal_iff => exact iff_of_false (by decide) (not_exists_misses hschema hknown)
  case failure_iff => exact iff_of_true rfl (.inr ⟨artifacts, i, reached, heq, hstops⟩)
  case otherwise => exact .inr (.inl rfl)
  case untouched =>
    rintro (hrefusal | hnone)
    · exact absurd hrefusal (by decide)
    · exact absurd hschema (hnone schema)
  case stopped =>
    intro artifacts' j reached' heq' hstops'
    obtain rfl := Except.ok.inj (heq.symm.trans heq')
    obtain rfl := hstops.unique hstops'
    exact ⟨h.out, hdelivered⟩
  case delivered =>
    intro hsuccess
    exact absurd hsuccess (by decide)

theorem outcome_done {artifacts : List Artifact} {after : Disk} {printed : String}
    (hartifacts : invocation.request.artifacts ⟨some schema⟩ = .ok artifacts)
    (hdelivered : opened.deliverAll invocation.request.directory artifacts = .ok after)
    (h : Stands invocation.logging.file apart printed after next) :
    Outcome invocation opened before .success next := by
  have heq := (artifacts_of_loads hschema).trans hartifacts
  have hstops : ∀ artifacts i reached, invocation.artifacts before.disk = .ok artifacts →
      ¬ opened.StopsAt invocation.request.directory artifacts i reached := by
    intro artifacts' i reached heq'
    obtain rfl := Except.ok.inj (heq.symm.trans heq')
    exact Disk.not_stopsAt_of_deliverAll hdelivered i reached
  constructor
  case refusal_iff => exact iff_of_false (by decide) (not_exists_misses hschema hknown)
  case failure_iff =>
    refine iff_of_false (by decide) ?_
    rintro (hnone | ⟨artifacts', i, reached, heq', hstop⟩)
    · exact hnone schema hschema
    · exact hstops artifacts' i reached heq' hstop
  case otherwise => exact .inr (.inr rfl)
  case untouched =>
    rintro (hrefusal | hnone)
    · exact absurd hrefusal (by decide)
    · exact absurd hschema (hnone schema)
  case stopped =>
    intro artifacts' i reached heq' hstop
    exact absurd hstop (hstops artifacts' i reached heq')
  case delivered =>
    intro _
    exact ⟨artifacts, heq, hlog.delivered (Disk.extends_of_deliverAll hdelivered)
      (Disk.delivered_of_deliverAll hdelivered) h.agrees⟩

end Ends

theorem start_outcome {arguments : List String} {directives : Option String}
    {invocation : Invocation} {opened : Disk} {machine : Machine}
    (hinvocation : Invocation.ofArguments arguments = .ok invocation)
    (hopened : Disk.openLog invocation.logging.file machine.disk = .ok opened)
    (hprofile : ∀ path, invocation.logging.file = some path →
      ¬ opened.SamePlace invocation.profile path) :
    Outcome invocation opened machine
      ((start arguments directives : StateM Machine ExitStatus).run machine).1
      ((start arguments directives : StateM Machine ExitStatus).run machine).2 := by
  obtain ⟨apart, hlog⟩ := Disk.exists_logOpened hopened
  -- The run reads the profile after the log was opened, the outcome tells of the disk before.
  have hloads := loads_iff hlog hprofile
  have hperforms := performs hopened hlog directives
  have hstart : (start arguments directives : StateM Machine ExitStatus)
      = run invocation directives := by
    rw [start, hinvocation]
  rw [hstart, run_run]
  generalize runOn (perform invocation directives) machine = result at hperforms
  cases hperforms with
  | unloaded hnone hmissing hstands =>
    have hnone : ∀ schema, ¬ Loads machine.disk invocation.profile schema := by
      intro schema hschema
      exact hnone schema ((hloads schema).2 hschema)
    dsimp only
    rw [exitStatus_of_not_missing hmissing]
    exact outcome_unloaded hlog hnone (hstands.printError _)
  | loaded hschema hfulfils =>
    have hschema := (hloads _).1 hschema
    cases hfulfils with
    | refused hmisses hmissing hstands =>
      dsimp only
      rw [exitStatus_of_missing hmissing]
      exact outcome_refused hlog hschema hmisses (hstands.printError _)
    | stopped hknown hartifacts hstops hgrows hmissing hstands =>
      dsimp only
      rw [exitStatus_of_not_missing hmissing]
      exact outcome_stopped hlog hschema hknown hartifacts hstops hgrows
        (hstands.printError _)
    | done hknown hartifacts hdelivered hstands =>
      exact outcome_done hlog hschema hknown hartifacts hdelivered hstands

/-- A machine with one file, in its working directory. -/
def oneFile (name text : String) : Machine where
  disk := { root := [("w", .directory [(name, .file text.toUTF8)])], working := ["w"] }

/-- The profile does not have the table; the log file is new. -/
theorem start_outcome_missing :
    let result := (start ["--log-file", "log", "schema", "p", "--table", "t"] none :
      StateM Machine ExitStatus).run (oneFile "p" "<p/>")
    result.1 = .refusal ∧ result.2.out = "" ∧
      Delivered (some "log") "." [] (oneFile "p" "<p/>").disk result.2.disk := by
  intro result
  let invocation : Invocation := ⟨.schema (.table "t") ".", "p", { file := some "log" }⟩
  let opened : Disk :=
    { root := [("w", .directory [("p", .file "<p/>".toUTF8), ("log", .file (.empty ++ "".toUTF8))])]
      working := ["w"] }
  have hinvocation : Invocation.ofArguments ["--log-file", "log", "schema", "p", "--table", "t"]
      = .ok invocation := by decide +kernel
  have hopened : Disk.openLog invocation.logging.file (oneFile "p" "<p/>").disk = .ok opened := rfl
  have hprofile : ∀ path, invocation.logging.file = some path →
      ¬ opened.SamePlace invocation.profile path := by
    rintro path hpath ⟨place, hplace, hsame⟩
    obtain rfl := Option.some.inj hpath
    have hprofile : opened.place "p" = .ok ["w", "p"] := by decide +kernel
    have hlog : opened.place "log" = .ok ["w", "log"] := by decide +kernel
    have heq : ["w", "p"] = ["w", "log"] :=
      (Except.ok.inj (hprofile.symm.trans hplace)).trans (Except.ok.inj (hsame.symm.trans hlog))
    exact absurd heq (by decide)
  have houtcome : Outcome invocation opened (oneFile "p" "<p/>") result.1 result.2 :=
    start_outcome hinvocation hopened hprofile
  have hread : (Markup.Document.ofText "<p/>").toOption.any (fun document =>
      ((Tables.empty.mergeAll (extractions document)).withIntrinsics.find? "t").isNone)
      = true := by decide +kernel
  obtain ⟨document, hdocument, hmissing⟩ := exists_ok_of_any hread
  have hloads : Loads (oneFile "p" "<p/>").disk "p" (Schema.ofDocument document) :=
    ⟨"<p/>".toUTF8, "<p/>", rfl, by decide +kernel, ofProfile_of_ofText hdocument⟩
  have hmisses : invocation.request.Misses (Schema.ofDocument document) := by
    refine ⟨"t", rfl, ?_⟩
    rw [Schema.table?, SchemaDocument.tables_ofDocument]
    exact Option.isNone_iff_eq_none.1 hmissing
  have hrefusal := houtcome.refusal_iff.2 ⟨_, hloads, hmisses⟩
  exact ⟨hrefusal, houtcome.untouched (.inl hrefusal)⟩

/-! ### Artifacts that overwrite each other -/

/-- A command goes well though one of its artifacts is not on the disk as the session gives it. -/
def LosesArtifact (arguments : List String) (machine : Machine) : Prop :=
  ∃ invocation artifacts, Invocation.ofArguments arguments = .ok invocation ∧
    invocation.logging.file = none ∧ invocation.artifacts machine.disk = .ok artifacts ∧
    ((start arguments none : StateM Machine ExitStatus).run machine).1 = .success ∧
    ∃ artifact ∈ artifacts,
      ((start arguments none : StateM Machine ExitStatus).run machine).2.disk.read
        (artifact.pathIn invocation.request.directory) ≠ .ok artifact.bytes

/-- Without a log a run that can write all artifacts leaves the disk with them. -/
theorem run_done {invocation : Invocation} {machine : Machine} {schema : Schema}
    {artifacts : List Artifact} {after : Disk} (hlog : invocation.logging.file = none)
    (hschema : Loads machine.disk invocation.profile schema)
    (hknown : ¬ invocation.request.Misses schema)
    (hartifacts : invocation.request.artifacts ⟨some schema⟩ = .ok artifacts)
    (hafter : machine.disk.deliverAll invocation.request.directory artifacts = .ok after)
    (directives : Option String) :
    ∃ next, (run invocation directives : StateM Machine ExitStatus).run machine = (.success, next) ∧
      Agrees none after next.disk := by
  have hopened : Disk.openLog invocation.logging.file machine.disk = .ok machine.disk := by
    rw [hlog]
    rfl
  obtain ⟨apart, hopens⟩ := Disk.exists_logOpened hopened
  obtain rfl := hopens.keeps.without hlog
  have hperforms := performs hopened hopens directives
  rw [run_run]
  generalize runOn (perform invocation directives) machine = result at hperforms
  cases hperforms with
  | unloaded hnone => exact absurd hschema (hnone schema)
  | loaded hother hfulfils =>
    obtain rfl := hschema.unique hother
    cases hfulfils with
    | refused hmisses => exact absurd hmisses hknown
    | stopped _ heq hstops =>
      obtain rfl := Except.ok.inj (hartifacts.symm.trans heq)
      exact absurd hstops (Disk.not_stopsAt_of_deliverAll hafter _ _)
    | done _ heq hdelivered hstands =>
      obtain rfl := Except.ok.inj (hartifacts.symm.trans heq)
      obtain rfl := Except.ok.inj (hafter.symm.trans hdelivered)
      exact ⟨_, rfl, hstands.agrees⟩

theorem losesArtifact_of_overwrites {machine : Machine} {arguments : List String}
    (invocation : Invocation) {directory : String} (text : String)
    (hinvocation : Invocation.ofArguments arguments = .ok invocation)
    (hlog : invocation.logging.file = none)
    (hrequest : invocation.request = .schema .all directory)
    (hread : machine.disk.read invocation.profile >>= fileText = .ok text)
    (h : (Markup.Document.ofText text).toOption.any (fun document =>
      overwritesDocument machine.disk directory
        ⟨(Tables.empty.mergeAll (extractions document)).withIntrinsics, [], {}⟩) = true) :
    LosesArtifact arguments machine := by
  obtain ⟨document, hdocument, hoverwrites⟩ := exists_ok_of_any h
  rw [← SchemaDocument.tables_ofDocument] at hoverwrites
  obtain ⟨artifacts, after, hdocuments, hafter, artifact, hmem, hlost⟩ :=
    exists_of_overwritesDocument hoverwrites
  have hschema : Loads machine.disk invocation.profile (Schema.ofDocument document) := by
    obtain ⟨bytes, hbytes, htext⟩ := Markup.bind_eq_ok_iff.1 hread
    exact ⟨bytes, text, hbytes, htext, ofProfile_of_ofText hdocument⟩
  have hknown : ¬ invocation.request.Misses (Schema.ofDocument document) := by
    rintro ⟨name, htable, -⟩
    rw [hrequest] at htable
    cases htable
  have hartifacts : invocation.request.artifacts ⟨some (Schema.ofDocument document)⟩
      = .ok artifacts := by
    rw [hrequest]
    exact hdocuments
  have hdirectory : invocation.request.directory = directory := by
    rw [hrequest]
    rfl
  rw [← hdirectory] at hafter hlost
  obtain ⟨next, hrun, hagrees⟩ := run_done hlog hschema hknown hartifacts hafter none
  have hstart : (start arguments none : StateM Machine ExitStatus).run machine
      = (.success, next) := by
    rw [start, hinvocation, ← hrun]
  refine ⟨invocation, artifacts, hinvocation, hlog,
    (artifacts_of_loads hschema).trans hartifacts, ?_⟩
  rw [hstart]
  refine ⟨rfl, artifact, hmem, fun hread => hlost ?_⟩
  obtain ⟨place, hplace, hfile⟩ := Disk.read_eq_ok_iff.1 hread
  rw [hagrees.place] at hplace
  rw [hagrees.files place (by simp)] at hfile
  exact Disk.read_eq_ok_iff.2 ⟨place, hplace, hfile⟩

/-- Two tables have names that lead to the same file. -/
theorem losesArtifact_same_file :
    LosesArtifact ["schema", "p.xml", "--all", "--output-dir", "schema_x/.."]
      (oneFile "p.xml" "<p><elementSet code='x/./y'/><elementSet code='x/y'/></p>") :=
  losesArtifact_of_overwrites ⟨.schema .all "schema_x/..", "p.xml", {}⟩
    "<p><elementSet code='x/./y'/><elementSet code='x/y'/></p>" (by decide +kernel) rfl rfl
    (by decide +kernel) (by decide +kernel)

end CollectionProfile.Command
