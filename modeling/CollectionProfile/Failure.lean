import CollectionProfile.Markup.Fault

/-!
# Failures

The ways in which work on a profile fails, and the wording shown for each. A failure that choosing
another table or loading a profile would resolve is a missing selection.
-/

namespace CollectionProfile

/-- Why a file could not be read or written. -/
inductive FileFault
  | notFound
  | alreadyExists
  | notDirectory
  | isDirectory
  | nameTooLong
  | notText
  | other (text : String)
deriving DecidableEq, Repr, Inhabited

/-- The wording of a file fault. -/
def FileFault.message : FileFault → String
  | .notFound => "No such file or directory (os error 2)"
  | .alreadyExists => "File exists (os error 17)"
  | .notDirectory => "Not a directory (os error 20)"
  | .isDirectory => "Is a directory (os error 21)"
  | .nameTooLong => "File name too long (os error 36)"
  | .notText => "stream did not contain valid UTF-8"
  | .other text => text

/-- Why work on a profile failed. -/
inductive Failure
  | malformedSource (fault : Markup.Fault)
  | noSchemaLoaded
  | unknownTable (table : String)
  | file (fault : FileFault)
deriving DecidableEq, Repr, Inhabited

namespace Failure

/-- The wording of a failure. -/
def message : Failure → String
  | .malformedSource fault => "malformed profile document: " ++ fault.message
  | .noSchemaLoaded => "no profile loaded"
  | .unknownTable table => "no data available for table '" ++ table ++ "'"
  | .file fault => "io error: " ++ fault.message

/-- Whether choosing another table, or loading a profile first, would resolve the failure. -/
def isMissingSelection : Failure → Bool
  | .noSchemaLoaded | .unknownTable _ => true
  | .malformedSource _ | .file _ => false

end Failure

end CollectionProfile
