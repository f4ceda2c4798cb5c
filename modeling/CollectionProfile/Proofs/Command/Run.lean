import CollectionProfile.Command.Run
import CollectionProfile.Proofs.Command.Delivery
import CollectionProfile.Proofs.Command.Product
import CollectionProfile.Proofs.Session

/-!
# Runs of commands on a machine in memory

While a command runs, the disk of its machine is that of a run which logs nothing, but for what the
log file holds: `Stands` is that invariant, kept by every step. How a command ends is therefore told
by what is done to the disk without the log (`performs`).
-/

namespace CollectionProfile.Command

open Disk (Agrees KeepsLog)

/-- The machine has printed this, and its disk is the given one but for what the log holds. -/
structure Stands (log : Option String) (apart : Option EntryPath) (out : String) (disk : Disk)
    (machine : Machine) : Prop where
  out : machine.out = out
  keeps : KeepsLog log apart disk
  agrees : Agrees apart disk machine.disk

variable {log : Option String} {apart : Option EntryPath} {out : String} {disk : Disk}
  {machine : Machine} {logger : Logger}

/-! ### Logging -/

theorem Stands.write (h : Stands log apart out disk machine) (hlog : logger.file = log)
    (text : String) :
    Stands log apart out disk ((logger.write text : StateM Machine Unit).run machine).2 := by
  rw [Logger.write, hlog]
  cases log with
  | none => exact ⟨h.out, h.keeps, h.agrees⟩
  | some path =>
    show Stands _ _ _ _ (Machine.onDisk (·.append path text) machine).2
    rw [Machine.onDisk]
    cases happend : machine.disk.append path text with
    | error fault => exact h
    | ok after =>
      -- The log is there already, so a line more changes no kind of an entry.
      exact ⟨h.out, h.keeps, h.agrees.trans ((h.keeps.agrees h.agrees).agrees_append happend)⟩

/-- A step that only looks at the machine hands it on. -/
theorem run_bind_state {α β : Type} (x : StateM Machine α) (f : α → StateM Machine β)
    (machine : Machine) : (x >>= f).run machine = (f (x.run machine).1).run (x.run machine).2 := rfl

theorem Stands.record (h : Stands log apart out disk machine) (hlog : logger.file = log)
    (event : Log.Event) :
    Stands log apart out disk ((logger.record event : StateM Machine Unit).run machine).2 := by
  have htime : ((Host.time : StateM Machine String).run machine).2 = machine := rfl
  rw [Logger.record]
  split
  · rw [run_bind_state, htime]
    exact h.write hlog _
  · exact h

theorem Stands.recordAll (h : Stands log apart out disk machine) (hlog : logger.file = log)
    (events : List Log.Event) :
    Stands log apart out disk ((logger.recordAll events : StateM Machine Unit).run machine).2 := by
  induction events generalizing machine with
  | nil => exact h
  | cons event rest ih => exact ih (h.record hlog event)

/-! ### Steps -/

/-- What a step of a command gives on a machine, and the machine that it leaves. -/
def runOn {α : Type} (step : ExceptT Problem (StateM Machine) α) (machine : Machine) :
    Except Problem α × Machine := step.run.run machine

section Steps

variable {α β : Type}

theorem run_pure (a : α) (machine : Machine) : runOn (pure a) machine = (.ok a, machine) := rfl

theorem run_throw (problem : Problem) (machine : Machine) :
    runOn (throw problem) machine = ((.error problem, machine) : Except Problem α × Machine) := rfl

theorem run_lift (x : StateM Machine α) (machine : Machine) :
    runOn (liftM x) machine = (.ok (x.run machine).1, (x.run machine).2) := rfl

theorem run_orProblem (problem : FileFault → Problem)
    (action : StateM Machine (Except FileFault α)) (machine : Machine) :
    runOn (orProblem problem action) machine
      = ((action.run machine).1.mapError problem, (action.run machine).2) := rfl

theorem run_bind (x : ExceptT Problem (StateM Machine) α)
    (f : α → ExceptT Problem (StateM Machine) β) (machine : Machine) :
    runOn (x >>= f) machine = match runOn x machine with
      | (.ok a, next) => runOn (f a) next
      | (.error problem, next) => (.error problem, next) := by
  rw [runOn, ExceptT.run_bind, StateT.run_bind]
  show _ = match x.run.run machine with
    | (.ok a, next) => runOn (f a) next
    | (.error problem, next) => (.error problem, next)
  obtain ⟨result, next⟩ := x.run.run machine
  cases result with
  | ok a => rfl
  | error problem => rfl

end Steps

/-! ### Loading -/

theorem run_startTimer (machine : Machine) :
    ((Host.startTimer : StateM Machine (StateM Machine String)).run machine).2 = machine := rfl

theorem run_elapsed (machine next : Machine) :
    (((Host.startTimer : StateM Machine (StateM Machine String)).run machine).1.run next).2
      = next := rfl

theorem run_load (h : Stands log apart out disk machine) (hlog : logger.file = log)
    (path : String) :
    ∃ next, runOn (load logger path) machine
        = ((Session.new.loadFile (machine.disk.read path)).2.mapError (.load path), next) ∧
      Stands log apart out disk next := by
  have hread : ((· >>= fileText) <$> (Host.readFile path : StateM Machine _)).run machine
      = (machine.disk.read path >>= fileText, machine) := rfl
  rw [Session.loadFile_eq, Session.settle_snd, load, run_bind, run_orProblem, hread]
  cases machine.disk.read path >>= fileText with
  | error fault => exact ⟨machine, rfl, h⟩
  | ok text =>
    have hprofile : Schema.ofProfile text = (Schema.documentOf text).map Schema.ofDocument := rfl
    have hread := h.record hlog (Log.profileRead path)
    have hinside : (logger.inside (Log.readingSpan text.utf8ByteSize)).file = log := hlog
    show ∃ next, _ = ((Schema.ofProfile text).mapError (Problem.load path), next) ∧ _
    rw [hprofile]
    cases hdocument : Schema.documentOf text with
    | ok document =>
      simp only [run_bind, run_lift, run_pure, run_startTimer, run_elapsed, Except.mapError,
        hdocument]
      exact ⟨_, rfl, (hread.recordAll hinside _).record hinside _⟩
    | error failure =>
      simp only [run_bind, run_lift, run_throw, run_startTimer, Except.mapError, hdocument]
      exact ⟨_, rfl, hread.record hinside _⟩

/-! ### Delivering -/

/-- A change of the disk that hangs on its entries alone goes as it does without the log. -/
theorem run_onDisk (h : Stands log apart out disk machine)
    (change : Disk → Except FileFault Disk) (problem : FileFault → Problem)
    (halike : Disk.Alike apart (change disk) (change machine.disk))
    (hextends : ∀ after, change disk = .ok after → disk.Extends after) :
    (∃ after next, change disk = .ok after ∧
      runOn (orProblem problem (Machine.onDisk change)) machine = (.ok (), next) ∧
      Stands log apart out after next) ∨
    ∃ fault, change disk = .error fault ∧
      runOn (orProblem problem (Machine.onDisk change)) machine
        = (.error (problem fault), machine) := by
  rw [run_orProblem]
  cases hchange : change disk with
  | error fault =>
    rw [hchange] at halike
    have hrun : (Machine.onDisk change).run machine = (.error fault, machine) := by
      show Machine.onDisk change machine = _
      rw [Machine.onDisk, halike.eq_of_error]
    rw [hrun]
    exact .inr ⟨fault, rfl, rfl⟩
  | ok after =>
    rw [hchange] at halike
    obtain ⟨other, hother, hagrees⟩ := halike.exists_of_ok
    have hrun : (Machine.onDisk change).run machine = (.ok (), { machine with disk := other }) := by
      show Machine.onDisk change machine = _
      rw [Machine.onDisk, hother]
    rw [hrun]
    exact .inl ⟨after, { machine with disk := other }, rfl, rfl, h.out,
      h.keeps.mono (hextends after hchange), hagrees⟩

theorem deliver_eq (directory : String) (artifact : Artifact) :
    (deliver directory artifact : ExceptT Problem (StateM Machine) String) = do
      (if directory ≠ "" then
        orProblem (.makeDirectory directory) (Machine.onDisk (·.makeDirectories directory))
      else pure ())
      orProblem (.write (artifact.pathIn directory))
        (Machine.onDisk (·.write (artifact.pathIn directory) artifact.bytes))
      return artifact.pathIn directory := by
  rw [deliver]
  split
  · rfl
  · rfl

theorem run_makeDirectories (h : Stands log apart out disk machine) (directory : String) :
    let make : ExceptT Problem (StateM Machine) Unit := if directory ≠ "" then
      orProblem (.makeDirectory directory) (Machine.onDisk (·.makeDirectories directory))
      else pure ()
    (∃ made next, disk.makeDirectories directory = .ok made ∧
      runOn make machine = (.ok (), next) ∧ Stands log apart out made next) ∨
    ∃ fault, disk.makeDirectories directory = .error fault ∧
      runOn make machine = (.error (.makeDirectory directory fault), machine) := by
  intro make
  by_cases hempty : directory = ""
  · have hmake : make = pure () := if_neg (not_not.2 hempty)
    rw [hmake, run_pure, Disk.makeDirectories, if_pos hempty]
    exact .inl ⟨disk, machine, rfl, rfl, h⟩
  · have hmake : make = orProblem (.makeDirectory directory)
        (Machine.onDisk (·.makeDirectories directory)) := if_pos hempty
    rw [hmake]
    have halike := Disk.alike_makeDirectories h.agrees directory
    exact run_onDisk h (·.makeDirectories directory) _ halike
      fun after hafter => (Disk.grows_of_makeDirectories hafter).1

theorem run_deliver (h : Stands log apart out disk machine) (directory : String)
    (artifact : Artifact) :
    (∃ after next, disk.deliver directory artifact = .ok after ∧
      runOn (deliver directory artifact) machine = (.ok (artifact.pathIn directory), next) ∧
      Stands log apart out after next) ∨
    ∃ fault problem larger next, disk.deliver directory artifact = .error fault ∧
      runOn (deliver directory artifact) machine = (.error problem, next) ∧
      problem.isMissingSelection = false ∧
      (disk.Extends larger ∧ larger.fileAt? = disk.fileAt?) ∧ Stands log apart out larger next := by
  rw [deliver_eq, run_bind, Disk.deliver]
  rcases run_makeDirectories h directory with
    ⟨made, next, hmade, hrun, hnext⟩ | ⟨fault, hfault, hrun⟩
  · -- When the write fails, the directories that were made for it stay.
    have hgrows := Disk.grows_of_makeDirectories hmade
    have halike := Disk.alike_write hnext.agrees (artifact.pathIn directory) artifact.bytes
    have hextends : ∀ after, made.write (artifact.pathIn directory) artifact.bytes = .ok after →
        made.Extends after := by
      intro after hafter
      obtain ⟨place, -, hadmits, rfl⟩ := Disk.write_eq_ok_iff.1 hafter
      exact Disk.extends_put_file hadmits artifact.bytes
    rw [hrun, hmade]
    show (∃ after last, made.write _ _ = _ ∧ _) ∨
      ∃ fault problem larger last, made.write _ _ = _ ∧ _
    simp only [run_bind]
    rcases run_onDisk hnext (·.write (artifact.pathIn directory) artifact.bytes)
        (.write (artifact.pathIn directory)) halike hextends with
      ⟨after, last, hafter, hwrite, hlast⟩ | ⟨fault, hfault, hwrite⟩
    · rw [hwrite]
      exact .inl ⟨after, last, hafter, rfl, hlast⟩
    · rw [hwrite]
      exact .inr ⟨fault, _, made, next, hfault, rfl, rfl, hgrows, hnext⟩
  · rw [hrun, hfault]
    exact .inr ⟨fault, _, disk, machine, rfl, rfl, rfl, ⟨Disk.Extends.refl disk, rfl⟩, h⟩

theorem run_deliverAll (h : Stands log apart out disk machine) (hlog : logger.file = log)
    (directory : String) (artifacts : List Artifact) :
    (∃ after next, disk.deliverAll directory artifacts = .ok after ∧
      runOn (deliverAll logger directory artifacts) machine = (.ok (), next) ∧
      Stands log apart out after next) ∨
    ∃ i reached problem larger next, disk.StopsAt directory artifacts i reached ∧
      runOn (deliverAll logger directory artifacts) machine = (.error problem, next) ∧
      problem.isMissingSelection = false ∧
      (reached.Extends larger ∧ larger.fileAt? = reached.fileAt?) ∧
      Stands log apart out larger next := by
  induction artifacts generalizing disk machine with
  | nil => exact .inl ⟨disk, machine, rfl, rfl, h⟩
  | cons artifact rest ih =>
    rw [deliverAll, run_bind, Disk.deliverAll_cons]
    rcases run_deliver h directory artifact with
      ⟨after, next, hafter, hrun, hnext⟩ |
      ⟨fault, problem, larger, next, hfault, hrun, hproblem, hgrows, hnext⟩
    · rw [hrun, hafter]
      simp only [run_bind, run_lift]
      have hrecorded := hnext.record hlog (Log.artifactWritten (artifact.pathIn directory) artifact)
      rcases ih hrecorded with ⟨last, final, hlast, hrest, hfinal⟩ |
        ⟨i, reached, problem, larger, final, hstops, hrest, hproblem, hgrows, hfinal⟩
      · exact .inl ⟨last, final, hlast, hrest, hfinal⟩
      · refine .inr ⟨i + 1, reached, problem, larger, final, ⟨?_, hstops.2⟩, hrest, hproblem,
          hgrows, hfinal⟩
        rw [List.take_succ_cons, Disk.deliverAll_cons, hafter]
        exact hstops.1
    · rw [hrun]
      exact .inr ⟨0, disk, problem, larger, next, ⟨rfl, artifact, fault, rfl, hfault⟩, rfl,
        hproblem, hgrows, hnext⟩

/-! ### Fulfilling requests -/

/-- How the work on a request can end, when it began with a disk as told. -/
inductive Fulfils (log : Option String) (apart : Option EntryPath) (out : String) (disk : Disk)
    (request : Request) (schema : Schema) : Except Problem Unit × Machine → Prop
  /-- The request misses a table. -/
  | refused {problem : Problem} {next : Machine} : request.Misses schema →
    problem.isMissingSelection = true → Stands log apart out disk next →
    Fulfils log apart out disk request schema (.error problem, next)
  /-- An artifact cannot be written; its directory may have been made. -/
  | stopped {artifacts : List Artifact} {i : Nat} {reached larger : Disk} {problem : Problem}
    {next : Machine} : ¬ request.Misses schema →
    request.artifacts ⟨some schema⟩ = .ok artifacts →
    disk.StopsAt request.directory artifacts i reached →
    reached.Extends larger ∧ larger.fileAt? = reached.fileAt? →
    problem.isMissingSelection = false → Stands log apart out larger next →
    Fulfils log apart out disk request schema (.error problem, next)
  | done {artifacts : List Artifact} {after : Disk} {printed : String} {next : Machine} :
    ¬ request.Misses schema → request.artifacts ⟨some schema⟩ = .ok artifacts →
    disk.deliverAll request.directory artifacts = .ok after →
    Stands log apart printed after next →
    Fulfils log apart out disk request schema (.ok (), next)

theorem file_insideAny (logger : Logger) (span : Option Log.Span) :
    (logger.insideAny span).file = logger.file := by
  cases span with
  | none => rfl
  | some span => rfl

theorem Stands.printOut (h : Stands log apart out disk machine) (text : String) :
    Stands log apart (out ++ text) disk
      ((Host.printOut text : StateM Machine Unit).run machine).2 :=
  ⟨congrArg (· ++ text) h.out, h.keeps, h.agrees⟩

theorem fulfils (h : Stands log apart out disk machine) (hlog : logger.file = log)
    (request : Request) (profile : String) (schema : Schema) :
    Fulfils log apart out disk request schema
      (runOn (fulfil logger request profile schema) machine) := by
  have hspan : (logger.insideAny request.span?).file = log := by rw [file_insideAny, hlog]
  have hbatch : ((logger.insideAny request.span?).insideAny request.batchSpan?).file = log := by
    rw [file_insideAny, hspan]
  have hrecorded := h.recordAll hbatch (request.events schema)
  simp only [fulfil, run_bind, run_lift]
  by_cases hmisses : request.Misses schema
  · obtain ⟨name, hproduct⟩ := product_of_misses profile hmisses
    rw [hproduct]
    exact .refused hmisses rfl hrecorded
  · rcases product_cases profile hmisses with
      ⟨text, hproduct, hartifacts⟩ | ⟨artifacts, hproduct, hartifacts⟩
    · rw [hproduct]
      exact .done hmisses hartifacts rfl (hrecorded.printOut text)
    · rw [hproduct]
      simp only [run_bind]
      rcases run_deliverAll hrecorded hspan request.directory artifacts with
        ⟨after, next, hafter, hrun, hnext⟩ |
        ⟨i, reached, problem, larger, next, hstops, hrun, hproblem, hgrows, hnext⟩
      · rw [hrun]
        exact .done hmisses hartifacts hafter (hnext.printOut _)
      · rw [hrun]
        exact .stopped hmisses hartifacts hstops hgrows hproblem hnext

/-! ### Performing invocations -/

/-- The file at a path is text, and that of a well-formed profile. -/
def Loads (disk : Disk) (path : String) (schema : Schema) : Prop :=
  ∃ bytes text, disk.read path = .ok bytes ∧ fileText bytes = .ok text ∧
    Schema.ofProfile text = .ok schema

theorem loadFile_of_loads {path : String} {schema : Schema} (h : Loads disk path schema) :
    Session.new.loadFile (disk.read path) = (⟨some schema⟩, .ok schema) := by
  obtain ⟨bytes, text, hread, htext, hschema⟩ := h
  have hbind : (Except.ok bytes : Except FileFault _) >>= fileText = .ok text := htext
  rw [Session.loadFile_eq, hread, hbind]
  show Session.new.settle (Schema.ofProfile text) = _
  rw [hschema]
  rfl

theorem loadFile_of_not_loads {path : String} (h : ∀ schema, ¬ Loads disk path schema) :
    ∃ failure, Session.new.loadFile (disk.read path) = (.new, .error failure) ∧
      failure.isMissingSelection = false := by
  rw [Session.loadFile_eq]
  cases hread : disk.read path with
  | error fault => exact ⟨.file fault, rfl, rfl⟩
  | ok bytes =>
    show ∃ failure, Session.new.settle (((fileText bytes).mapError .file) >>= _) = _ ∧ _
    cases htext : fileText bytes with
    | error fault => exact ⟨.file fault, rfl, rfl⟩
    | ok text =>
      show ∃ failure, Session.new.settle (Schema.ofProfile text) = _ ∧ _
      cases hschema : Schema.ofProfile text with
      | ok schema => exact absurd ⟨bytes, text, hread, htext, hschema⟩ (h schema)
      | error failure =>
        refine ⟨failure, rfl, ?_⟩
        rw [Schema.ofProfile, Schema.documentOf] at hschema
        cases hdocument : Markup.Document.ofText text with
        | ok document => simp [hdocument, Except.mapError, Except.map] at hschema
        | error fault =>
          rw [hdocument] at hschema
          obtain rfl := Except.error.inj hschema
          rfl

/-- How the work on an invocation can end, once its log has been opened. -/
inductive Performs (log : Option String) (apart : Option EntryPath) (out : String) (disk : Disk)
    (invocation : Invocation) : Except Problem Unit × Machine → Prop
  | unloaded {problem : Problem} {next : Machine} :
    (∀ schema, ¬ Loads disk invocation.profile schema) → problem.isMissingSelection = false →
    Stands log apart out disk next →
    Performs log apart out disk invocation (.error problem, next)
  | loaded {schema : Schema} {result : Except Problem Unit × Machine} :
    Loads disk invocation.profile schema →
    Fulfils log apart out disk invocation.request schema result →
    Performs log apart out disk invocation result

theorem run_start {opened : Disk} (hlog : logger.file = log)
    (hopened : Disk.openLog log machine.disk = .ok opened) :
    (logger.start : StateM Machine (Except FileFault Unit)).run machine
      = (.ok (), { machine with disk := opened }) := by
  rw [Logger.start, hlog]
  cases log with
  | none =>
    obtain rfl : machine.disk = opened := Except.ok.inj hopened
    rfl
  | some path =>
    have hopened : machine.disk.append path "" = .ok opened := hopened
    show Machine.onDisk (·.append path "") machine = _
    rw [Machine.onDisk, hopened]

theorem performs {invocation : Invocation} {opened : Disk}
    (hopened : Disk.openLog invocation.logging.file machine.disk = .ok opened)
    (hlog : Disk.LogOpened invocation.logging.file apart machine.disk opened)
    (directives : Option String) :
    Performs invocation.logging.file apart machine.out opened invocation
      (runOn (perform invocation directives) machine) := by
  have hfile : (Logger.ofLogging invocation.logging directives).file = invocation.logging.file :=
    rfl
  have hstands : Stands invocation.logging.file apart machine.out opened
      { machine with disk := opened } := ⟨rfl, hlog.keeps, Agrees.refl apart opened⟩
  simp only [perform, run_bind, run_orProblem, run_start hfile hopened, Except.mapError]
  obtain ⟨next, hrun, hnext⟩ := run_load hstands hfile invocation.profile
  rw [hrun]
  by_cases hloads : ∃ schema, Loads opened invocation.profile schema
  · obtain ⟨schema, hschema⟩ := hloads
    rw [loadFile_of_loads hschema]
    exact .loaded hschema (fulfils hnext hfile invocation.request invocation.profile schema)
  · have hloads := not_exists.1 hloads
    obtain ⟨failure, hfailure, hmissing⟩ := loadFile_of_not_loads hloads
    rw [hfailure]
    exact .unloaded hloads hmissing hnext

end CollectionProfile.Command
