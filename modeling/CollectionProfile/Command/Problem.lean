import CollectionProfile.Failure

/-!
# Problems

Why a command failed, the line that says so, and the exit status. A command that only wants another
table to be chosen ends with a notice, any other failed one with an error.
-/

namespace CollectionProfile.Command

/-- How a program ends. -/
abbrev ExitStatus := UInt32

namespace ExitStatus

/-- All went well. -/
def success : ExitStatus := 0

/-- Something failed. -/
def failure : ExitStatus := 1

/-- The command line, or what it selects, is not right. -/
def refusal : ExitStatus := 2

end ExitStatus

/-- Why a command failed. -/
inductive Problem
  /-- The log file could not be opened. -/
  | openLog (fault : FileFault)
  | load (profile : String) (failure : Failure)
  | work (failure : Failure)
  | makeDirectory (path : String) (fault : FileFault)
  | write (path : String) (fault : FileFault)
deriving DecidableEq, Repr, Inhabited

namespace Problem

/-- The wording of a problem. A fault of the profile's file is told as the failure and as its
cause. -/
def message : Problem → String
  | .openLog fault => "failed to initialize logging: " ++ fault.message
  | .load profile failure =>
    "load profile " ++ profile ++ ": " ++ failure.message ++
      match failure with
      | .file fault => ": " ++ fault.message
      | _ => ""
  | .work failure => failure.message
  | .makeDirectory path fault => "create " ++ path ++ ": " ++ fault.message
  | .write path fault => "write " ++ path ++ ": " ++ fault.message

/-- Whether choosing another table would resolve the problem. -/
def isMissingSelection : Problem → Bool
  | .load _ failure | .work failure => failure.isMissingSelection
  | .openLog _ | .makeDirectory .. | .write .. => false

/-- The line that tells a problem. -/
def line (problem : Problem) : String :=
  (if problem.isMissingSelection then "notice: " else "error: ") ++ problem.message ++ "\n"

/-- The status that a problem ends a command with. -/
def exitStatus (problem : Problem) : ExitStatus :=
  if problem.isMissingSelection then .refusal else .failure

end Problem

end CollectionProfile.Command
