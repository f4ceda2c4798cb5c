import CollectionProfile.Command.Arguments
import CollectionProfile.Log.Filter

/-!
# Invocations

What a whole command line asks for: a request, the profile it is about, and how to log. Global
options may stand on either side of the subcommand; where one is given on both sides, the later one
counts.
-/

namespace CollectionProfile.Command

/-- The tables that an output covers. -/
inductive Selection
  | table (name : String)
  /-- A file for every table. -/
  | all
  /-- One file for all tables. -/
  | combined
deriving DecidableEq, Repr, Inhabited

/-- What is wanted of a profile. -/
inductive Request
  | summary (asJson : Bool)
  | tables
  | fields (table : String) (asJson : Bool)
  | relations
  | mapping (selection : Selection) (options : Mapping.Options) (directory : String)
  | schema (selection : Selection) (directory : String)
deriving DecidableEq, Repr, Inhabited

/-- How a run is logged. -/
structure Logging where
  /-- The limit for the work's own events. -/
  limit : Log.Limit := some .warn
  /-- Whether the limit was asked for; if not, directives of the surroundings take its place. -/
  isExplicit : Bool := false
  layout : Log.Layout := .pretty
  isStyled : Bool := false
  /-- The file to log to, in place of standard error. -/
  file : Option String := none
deriving DecidableEq, Repr, Inhabited

/-- The filter of a log, given the written directives of the surroundings, if there are any. -/
def Logging.filter (logging : Logging) (directives : Option String) : Log.Filter :=
  let own := (Log.Filter.ofText? (Log.Directive.defaultText logging.limit)).getD (.ofDirectives [])
  if logging.isExplicit then own else (directives.bind Log.Filter.ofText?).getD own

/-- What a command line asks for. -/
structure Invocation where
  request : Request
  /-- The path of the profile. -/
  profile : String
  logging : Logging := {}
deriving DecidableEq, Repr, Inhabited

/-! ### The two sides of a subcommand -/

/-- The value of a global setting. -/
def globalValue? (before after : Given) (setting : Setting) : Option String :=
  (after.value? setting).orElse fun _ => before.value? setting

/-- How often a global switch was given. -/
def globalCount (before after : Given) (switch : Switch) : Nat :=
  if 0 < after.count switch then after.count switch else before.count switch

/-- Whether one side raises and lowers the verbosity at once. -/
def Given.isContradictory (given : Given) : Bool := given.has .verbose && given.has .quiet

/-- The logging that is asked for. -/
def Logging.ofGiven (before after : Given) : Logging :=
  let verbose := globalCount before after .verbose
  let quiet := globalCount before after .quiet
  let level := (globalValue? before after .logLevel).bind fun name =>
    Log.Level.all.find? (·.name = name)
  { limit := match level with
      | some level => some level
      | none => .ofRank (Log.Level.warn.rank + verbose - quiet)
    isExplicit := level.isSome || 0 < verbose || 0 < quiet
    layout := match globalValue? before after .logFormat with
      | some "compact" => .compact
      | some "json" => .json
      | _ => .pretty
    isStyled := globalValue? before after .color = some "always"
    file := globalValue? before after .logFile }

namespace Given

/-- The tables that are selected. Exactly one way to select them must be used. -/
def selection? (given : Given) : Option Selection :=
  match given.value? .table, given.has .all, given.has .combined with
  | some name, false, false => some (.table name)
  | none, true, false => some .all
  | none, false, true => some .combined
  | _, _, _ => none

/-- The options of a mapping. -/
def mappingOptions (given : Given) : Mapping.Options where
  convention := if given.value? .convention = some "readable" then .readable else .technical
  relations := !given.has .noRelations

/-- The directory to write to. -/
def directory (given : Given) : String := (given.value? .outputDirectory).getD "."

/-- The request of a subcommand and the profile it is about, given what stands after the
subcommand. -/
def request? (given : Given) (subcommand : Subcommand) : Option (Request × String) :=
  match subcommand, given.operands with
  | .summary, [profile] => some (.summary (given.has .json), profile)
  | .tables, [profile] => some (.tables, profile)
  | .fields, [profile, table] => some (.fields table (given.has .json), profile)
  | .relations, [profile] => some (.relations, profile)
  | .mapping, [profile] => given.selection?.map fun selection =>
    (.mapping selection given.mappingOptions given.directory, profile)
  | .schema, [profile] => given.selection?.map fun selection =>
    (.schema selection given.directory, profile)
  | _, _ => none

end Given

/-- What a command line asks for, unless it is misused or asks for information about the program. -/
def Invocation.ofArguments (arguments : List String) : Except Stop Invocation := do
  let (before, subcommand, rest) ← readBefore {} .anything arguments
  let after ← readAfter subcommand {} .anything rest
  if before.isContradictory || after.isContradictory then .error .misuse
  else match after.request? subcommand with
    | some (request, profile) =>
      if profile = "" then .error .misuse
      else .ok { request, profile, logging := .ofGiven before after }
    | none => .error .misuse

end CollectionProfile.Command
