import CollectionProfile.Json.Basic
import CollectionProfile.Log.Filter

/-!
# Log lines

The three written forms of an event: with its spans and their fields in front, with the fields of
the spans at the end, and as one JSON object.
-/

namespace CollectionProfile.Log

/-- How log lines are laid out. -/
inductive Layout
  | pretty
  | compact
  | json
deriving DecidableEq, Repr, Inhabited

/-- How parts of a log line are set off for a terminal. -/
inductive Style
  | bold
  | dimmed
  | italic
  | level (level : Level)
deriving DecidableEq, Repr

namespace Style

/-- The number that switches a style on. -/
def code : Style → Nat
  | .bold => 1
  | .dimmed => 2
  | .italic => 3
  | .level .error => 31
  | .level .info => 32
  | .level .warn => 33
  | .level .debug => 34
  | .level .trace => 35

/-- A text in a style, where styles are wanted. -/
def paint (isStyled : Bool) (style : Style) (text : String) : String :=
  if isStyled then "\x1b[" ++ toString style.code ++ "m" ++ text ++ "\x1b[0m" else text

end Style

open Style (paint)

/-- A named value in a line for people. -/
def fieldText (isStyled : Bool) (field : NamedField) : String :=
  paint isStyled .italic field.1 ++ paint isStyled .dimmed "=" ++ field.2.text

/-- Named values in a line for people. -/
def fieldsText (isStyled : Bool) (fields : List NamedField) : String :=
  " ".intercalate (fields.map (fieldText isStyled))

/-- The level at the start of a line, right-aligned. -/
def levelText (isStyled : Bool) (level : Level) : String :=
  let label := if level.label.length < 5 then " " ++ level.label else level.label
  paint isStyled (.level level) label ++ " "

/-- The message of an event and its fields. -/
def bodyText (isStyled : Bool) (event : Event) : String :=
  " ".intercalate (event.message :: event.fields.map (fieldText isStyled))

/-- A span in front of an event, with its fields in braces. -/
def spanText (isStyled : Bool) (span : Span) : String :=
  paint isStyled .bold span.name
    ++ (if span.fields.isEmpty then ""
      else paint isStyled .bold "\x7b" ++ fieldsText isStyled span.fields
        ++ paint isStyled .bold "\x7d")
    ++ paint isStyled .dimmed ":"

/-- The line of an event with its spans and their fields in front. -/
def prettyLine (isStyled : Bool) (spans : List Span) (event : Event) : String :=
  levelText isStyled event.level
    ++ (if spans.isEmpty then "" else String.join (spans.map (spanText isStyled)) ++ " ")
    ++ bodyText isStyled event

/-- The line of an event with its spans in front and their fields at the end. -/
def compactLine (isStyled : Bool) (spans : List Span) (event : Event) : String :=
  -- A span without fields leaves no gap at the end of the line.
  let withFields := spans.filter (!·.fields.isEmpty)
  levelText isStyled event.level
    ++ (if spans.isEmpty then ""
      else String.join (spans.map fun span => paint isStyled .bold span.name ++ ":") ++ " ")
    ++ bodyText isStyled event
    ++ String.join (withFields.map fun span =>
      " " ++ paint isStyled .dimmed (fieldsText isStyled span.fields))

/-- A value in a JSON line. -/
def Value.toJson : Value → Json
  | .plain text | .quoted text => .string text
  | .number value => .number value

/-- Named values in a JSON line. -/
def jsonFields (fields : List NamedField) : List (String × Json) :=
  fields.map fun (name, value) => (name, value.toJson)

/-- A span in a JSON line. -/
def spanJson (span : Span) : Json :=
  .object (jsonFields span.fields ++ [("name", .string span.name)])

/-- The JSON line of an event that happened at a given time. -/
def jsonLine (time : String) (spans : List Span) (event : Event) : String :=
  let inner := match spans.getLast? with
    | some span => [("span", spanJson span), ("spans", .array (spans.map spanJson))]
    | none => []
  Json.compact (.object ([("timestamp", .string time), ("level", .string event.level.label),
    ("fields", .object (("message", .string event.message) :: jsonFields event.fields))] ++ inner))

/-- The line of an event. Only JSON lines tell the time, and they are never styled. -/
def line (layout : Layout) (isStyled : Bool) (time : String) (spans : List Span) (event : Event) :
    String :=
  match layout with
  | .pretty => prettyLine isStyled spans event
  | .compact => compactLine isStyled spans event
  | .json => jsonLine time spans event

end CollectionProfile.Log
