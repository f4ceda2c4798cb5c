import CollectionProfile.Command.Host
import CollectionProfile.Command.Invocation
import CollectionProfile.Command.Problem

/-!
# Loggers

A logger writes the events that its filter lets through, inside the spans that have been entered, to
standard error or to the end of a file.
-/

namespace CollectionProfile.Command

/-- Where and how events are written. -/
structure Logger where
  filter : Log.Filter
  layout : Log.Layout
  isStyled : Bool
  /-- The file to write to, in place of standard error. -/
  file : Option String
  /-- The spans that have been entered, the outermost first. -/
  entered : List Log.EnteredSpan := []
deriving DecidableEq, Repr

namespace Logger

/-- The logger that is asked for, given the written directives of the surroundings. -/
def ofLogging (logging : Logging) (directives : Option String) : Logger where
  filter := logging.filter directives
  layout := logging.layout
  isStyled := logging.isStyled
  file := logging.file

/-- The logger inside one more span. -/
def inside (logger : Logger) (span : Log.Span) : Logger :=
  { logger with entered := logger.filter.enter logger.entered span }

/-- The logger inside one more span, if there is one. -/
def insideAny (logger : Logger) (span : Option Log.Span) : Logger := span.elim logger logger.inside

variable {m : Type → Type} [Monad m] [Host m]

/-- Makes sure that the log file is there. -/
def start (logger : Logger) : m (Except FileFault Unit) :=
  match logger.file with
  | some path => Host.appendFile path ""
  | none => return .ok ()

/-- Writes a text to the log. What cannot be written is lost. -/
def write (logger : Logger) (text : String) : m Unit :=
  match logger.file with
  | some path => discard (Host.appendFile path text)
  | none => Host.printError text

/-- Writes an event, if it is let through. -/
def record (logger : Logger) (event : Log.Event) : m Unit := do
  if logger.filter.allows logger.entered event then
    let spans := logger.entered.map (·.span)
    let line := Log.line logger.layout logger.isStyled (← Host.time) spans event
    logger.write (line ++ "\n")

/-- Writes the events that are let through. -/
def recordAll (logger : Logger) (events : List Log.Event) : m Unit := events.forM logger.record

end Logger

end CollectionProfile.Command
