import CollectionProfile.Log.Line
import CollectionProfile.Mapping.Single
import CollectionProfile.Text.Occurrence

/-!
# Command line arguments

The arguments of a command line are read in order: options, a subcommand, then the options and
operands of the subcommand. Some options are global and may stand on either side of the subcommand.
-/

namespace CollectionProfile.Command

/-- What a command line can ask for. -/
inductive Subcommand
  | summary
  | tables
  | fields
  | relations
  | mapping
  | schema
deriving DecidableEq, Repr, Inhabited

/-- The subcommand with a name. -/
def Subcommand.ofName? : String → Option Subcommand
  | "summary" => some .summary
  | "tables" => some .tables
  | "fields" => some .fields
  | "relations" => some .relations
  | "mapping" => some .mapping
  | "schema" => some .schema
  | _ => none

/-- The number of operands of a subcommand. -/
def Subcommand.operandCount : Subcommand → Nat
  | .fields => 2
  | _ => 1

/-- An option that takes no value. -/
inductive Switch
  | verbose
  | quiet
  | version
  | help
  | json
  | all
  | combined
  | noRelations
deriving DecidableEq, Repr, Inhabited

/-- An option that takes a value. -/
inductive Setting
  | color
  | logLevel
  | logFormat
  | logFile
  | table
  | convention
  | outputDirectory
deriving DecidableEq, Repr, Inhabited

/-- The switch with a long name, before any subcommand or after one. -/
def Switch.ofLong? (subcommand : Option Subcommand) : String → Option Switch
  | "verbose" => some .verbose
  | "quiet" => some .quiet
  | "help" => some .help
  | "version" => if subcommand = none then some .version else none
  | "json" => if subcommand = some .summary ∨ subcommand = some .fields then some .json else none
  | "all" => if subcommand = some .mapping ∨ subcommand = some .schema then some .all else none
  | "combined" =>
    if subcommand = some .mapping ∨ subcommand = some .schema then some .combined else none
  | "no-relations" => if subcommand = some .mapping then some .noRelations else none
  | _ => none

/-- The switch with a short name, before any subcommand or after one. -/
def Switch.ofShort? (subcommand : Option Subcommand) : Char → Option Switch
  | 'v' => some .verbose
  | 'q' => some .quiet
  | 'h' => some .help
  | 'V' => if subcommand = none then some .version else none
  | _ => none

/-- The setting with a long name, before any subcommand or after one. -/
def Setting.ofLong? (subcommand : Option Subcommand) : String → Option Setting
  | "color" => some .color
  | "log-level" => some .logLevel
  | "log-format" => some .logFormat
  | "log-file" => some .logFile
  | "table" => if subcommand = some .mapping ∨ subcommand = some .schema then some .table else none
  | "convention" => if subcommand = some .mapping then some .convention else none
  | "output-dir" =>
    if subcommand = some .mapping ∨ subcommand = some .schema then some .outputDirectory else none
  | _ => none

/-- The values that a setting admits; any value where none are listed. -/
def Setting.choices : Setting → List String
  | .color => ["auto", "always", "never"]
  | .logLevel => Log.Level.all.map (·.name)
  | .logFormat => ["pretty", "compact", "json"]
  | .convention => ["technical", "readable"]
  | .logFile | .table | .outputDirectory => []

/-- Whether a setting admits a value. Paths must not be empty. -/
def Setting.admits (setting : Setting) (value : String) : Bool :=
  match setting with
  | .logFile | .outputDirectory => value ≠ ""
  | .table => true
  | _ => setting.choices.contains value

/-- What was given on one side of the subcommand. -/
structure Given where
  /-- The switches, the last one first. -/
  switches : List Switch := []
  settings : List (Setting × String) := []
  operands : List String := []
deriving DecidableEq, Repr, Inhabited

/-- Why the reading of a command line ended before a command was found. -/
inductive Stop
  | misuse
  | version
  | help
deriving DecidableEq, Repr, Inhabited

namespace Given

/-- The number up to which repetitions of a switch are counted. -/
def maxCount : Nat := 255

/-- How often a switch was given, as far as it is counted. -/
def count (given : Given) (switch : Switch) : Nat := min (given.switches.count switch) maxCount

/-- Whether a switch was given. -/
def has (given : Given) (switch : Switch) : Bool := given.switches.contains switch

/-- The value of a setting, if it was given. -/
def value? (given : Given) (setting : Setting) : Option String := given.settings.lookup setting

/-- The switches that may be given more than once. -/
def isRepeatable (switch : Switch) : Bool := switch = .verbose || switch = .quiet

/-- What was given so far, with one more switch. -/
def addSwitch (given : Given) (switch : Switch) : Except Stop Given :=
  match switch with
  | .version => .error .version
  | .help => .error .help
  | _ =>
    if given.has switch && !isRepeatable switch then .error .misuse
    else .ok { given with switches := switch :: given.switches }

/-- What was given so far, with the switches of a cluster of short names. -/
def addShorts (subcommand : Option Subcommand) (given : Given) (names : List Char) :
    Except Stop Given :=
  names.foldlM (fun given name =>
    match Switch.ofShort? subcommand name with
    | some switch => given.addSwitch switch
    | none => .error .misuse) given

/-- What was given so far, with one more setting. -/
def addSetting (given : Given) (setting : Setting) (value : String) : Except Stop Given :=
  if (given.value? setting).isSome || !setting.admits value then .error .misuse
  else .ok { given with settings := given.settings ++ [(setting, value)] }

end Given

/-- Whether an argument can only be an option. -/
def isOption (argument : String) : Bool :=
  match argument.toList with
  | '-' :: _ :: _ => true
  | _ => false

/-- The name and the attached value of a long option. -/
def longParts (name : List Char) : String × Option String :=
  match Text.cut? ['='] name with
  | some (name, value) => (String.ofList name, some (String.ofList value))
  | none => (String.ofList name, none)

/-- What follows an argument: another argument is needed as the value of a setting, operands only,
or arguments of any kind. -/
inductive Expecting
  | anything
  | valueOf (setting : Setting)
  | operands
deriving DecidableEq, Repr, Inhabited

/-- What was given so far, with one more option, and what is expected after it. -/
def addOption (subcommand : Option Subcommand) (given : Given) (argument : String) :
    Except Stop (Given × Expecting) :=
  match argument.toList with
  | ['-', '-'] => .ok (given, .operands)
  | '-' :: '-' :: name =>
    match longParts name with
    | (name, value) =>
      match Switch.ofLong? subcommand name, Setting.ofLong? subcommand name, value with
      | some switch, _, none => do return (← given.addSwitch switch, .anything)
      | none, some setting, some value => do return (← given.addSetting setting value, .anything)
      | none, some setting, none => .ok (given, .valueOf setting)
      | _, _, _ => .error .misuse
  | '-' :: names => do return (← given.addShorts subcommand names, .anything)
  | _ => .error .misuse

/-- Whether the arguments after the word `help` name something that there is help on. -/
def isHelpTopic : List String → Bool
  | [] => true
  | [name] => name = "help" || (Subcommand.ofName? name).isSome
  | _ => false

/-- What is given by the arguments up to the subcommand, the subcommand, and the arguments after
it. -/
def readBefore (given : Given) (expecting : Expecting) :
    List String → Except Stop (Given × Subcommand × List String)
  | [] => .error .misuse
  | argument :: rest =>
    match expecting with
    -- A subcommand cannot be named once only operands may come.
    | .operands => .error .misuse
    | .valueOf setting =>
      if isOption argument then .error .misuse
      else do readBefore (← given.addSetting setting argument) .anything rest
    | .anything =>
      if isOption argument then do
        let (given, expecting) ← addOption none given argument
        readBefore given expecting rest
      else match Subcommand.ofName? argument with
        | some subcommand => .ok (given, subcommand, rest)
        | none => .error (if argument = "help" && isHelpTopic rest then .help else .misuse)

/-- What is given by the arguments after the subcommand. -/
def readAfter (subcommand : Subcommand) (given : Given) (expecting : Expecting) :
    List String → Except Stop Given
  | [] =>
    match expecting with
    | .valueOf _ => .error .misuse
    | _ => .ok given
  | argument :: rest =>
    match expecting with
    | .valueOf setting =>
      if isOption argument then .error .misuse
      else do readAfter subcommand (← given.addSetting setting argument) .anything rest
    | _ =>
      if expecting = .anything && isOption argument then do
        let (given, expecting) ← addOption (some subcommand) given argument
        readAfter subcommand given expecting rest
      else if given.operands.length < subcommand.operandCount then
        readAfter subcommand { given with operands := given.operands ++ [argument] } expecting rest
      else .error .misuse

end CollectionProfile.Command
