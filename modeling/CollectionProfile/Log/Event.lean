import CollectionProfile.Log.Level
import CollectionProfile.Text.Quoted

/-!
# Log events

A log is made of events, which stand inside spans. Both carry named values and a target, which says
what part of the work they come from.
-/

namespace CollectionProfile.Log

/-- A value that an event or a span carries. -/
inductive Value
  /-- A text that is written as it is. -/
  | plain (text : String)
  /-- A text that is written in quotes. -/
  | quoted (text : String)
  | number (value : Nat)
deriving DecidableEq, Repr, Inhabited

/-- A value in a line for people. -/
def Value.text : Value → String
  | .plain text => text
  | .quoted text => Text.quoted text
  | .number value => toString value

/-- A named value. -/
abbrev NamedField := String × Value

/-- A stretch of work that events stand in. -/
structure Span where
  name : String
  target : String
  level : Level := .info
  fields : List NamedField := []
deriving DecidableEq, Repr, Inhabited

/-- Something that happened. -/
structure Event where
  level : Level
  target : String
  message : String
  fields : List NamedField := []
deriving DecidableEq, Repr, Inhabited

end CollectionProfile.Log
