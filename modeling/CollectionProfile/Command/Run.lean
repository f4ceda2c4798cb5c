import CollectionProfile.Command.Logger
import CollectionProfile.Command.Product
import CollectionProfile.Command.Usage
import CollectionProfile.Session

/-!
# Running commands

A command loads its profile, makes what is asked of it, and then prints or delivers. The first
problem ends it; files that were written before stay, and nothing is printed to standard output.
-/

namespace CollectionProfile.Command

variable {m : Type → Type} [Monad m] [Host m]

/-- An action on files as a step of a command, given which problem its fault is. -/
def orProblem {α : Type} (problem : FileFault → Problem) (action : m (Except FileFault α)) :
    ExceptT Problem m α :=
  ExceptT.mk ((·.mapError problem) <$> action)

/-- Loads the profile at a path. -/
def load (logger : Logger) (path : String) : ExceptT Problem m Schema := do
  let text ← orProblem (fun fault => .load path (.file fault))
    ((· >>= fileText) <$> Host.readFile path)
  logger.record (m := m) (Log.profileRead path)
  let logger := logger.inside (Log.readingSpan text.utf8ByteSize)
  let elapsed ← Host.startTimer (m := m)
  match Schema.documentOf text with
  | .ok document =>
    logger.recordAll (m := m) (Log.readingEvents document)
    let schema := Schema.ofDocument document
    logger.record (m := m) (Log.profileLoaded schema.summary (← elapsed))
    return schema
  | .error failure =>
    logger.record (m := m) (Log.profileRejected failure)
    throw (.load path failure)

/-- Writes an artifact to a directory, which is made where it is missing, and gives its path. -/
def deliver (directory : String) (artifact : Artifact) : ExceptT Problem m String := do
  if directory ≠ "" then
    orProblem (.makeDirectory directory) (Host.makeDirectories directory)
  let path := Disk.join directory artifact.fileName
  orProblem (.write path) (Host.writeFile path artifact.contents.toUTF8)
  return path

/-- Writes artifacts to a directory, one after another. -/
def deliverAll (logger : Logger) (directory : String) : List Artifact → ExceptT Problem m Unit
  | [] => return
  | artifact :: rest => do
    let path ← deliver directory artifact
    logger.record (m := m) (Log.artifactWritten path artifact)
    deliverAll logger directory rest

/-- Does what a request asks for, given the schema of its profile. -/
def fulfil (logger : Logger) (request : Request) (profile : String) (schema : Schema) :
    ExceptT Problem m Unit := do
  let logger := logger.insideAny request.span?
  (logger.insideAny request.batchSpan?).recordAll (m := m) (request.events schema)
  match request.product profile schema with
  | .error failure => throw (.work failure)
  | .ok (.screen text) => Host.printOut (m := m) text
  | .ok (.files directory artifacts) =>
    deliverAll logger directory artifacts
    Host.printOut (m := m) (Screen.delivered directory artifacts)

/-- Does what a command line asks for, given the written log directives of the surroundings. -/
def perform (invocation : Invocation) (directives : Option String) : ExceptT Problem m Unit := do
  let logger := Logger.ofLogging invocation.logging directives
  orProblem (m := m) .openLog logger.start
  let schema ← load logger invocation.profile
  fulfil logger invocation.request invocation.profile schema

/-- Does what a command line asks for and tells how that ended. -/
def run (invocation : Invocation) (directives : Option String) : m ExitStatus := do
  match ← (perform invocation directives).run with
  | .ok () => return .success
  | .error problem =>
    Host.printError problem.line
    return problem.exitStatus

/-- Tells why the reading of a command line ended before a command was found. -/
def tellStop : Stop → m ExitStatus
  | .misuse => do
    Host.printError usage
    return .refusal
  | .help => do
    Host.printOut usage
    return .success
  | .version => do
    Host.printOut versionLine
    return .success

/-- Runs a command line, given the written log directives of the surroundings. -/
def start (arguments : List String) (directives : Option String) : m ExitStatus :=
  match Invocation.ofArguments arguments with
  | .ok invocation => run invocation directives
  | .error stop => tellStop stop

end CollectionProfile.Command
