import CollectionProfile.Log.Event
import CollectionProfile.Text.ByteCount
import CollectionProfile.Text.Decimal
import CollectionProfile.Text.Pattern.Reader

/-!
# Log directives

A directive lets events of some target through up to a level. It may also name a span and fields,
and then applies to what happens inside such spans. Written, a directive is a level, a target, or a
target with a level; the target may be followed by a span in square brackets and its fields in
braces.
-/

namespace CollectionProfile.Log

/-- What the value of a field has to be. -/
inductive ExpectedValue
  | number (value : Nat)
  /-- A text that the pattern with the given written form matches as a whole. -/
  | text (source : String) (pattern : Text.Pattern)
  /-- A value of a kind that no field has: a truth value, or a number with a sign or a fraction. -/
  | unmet
deriving DecidableEq, Repr, Inhabited

/-- A field that a directive asks for, with what its value has to be, if anything. -/
structure FieldMatch where
  name : String
  value : Option ExpectedValue
deriving DecidableEq, Repr, Inhabited

/-- What is let through for which targets, spans and fields. -/
structure Directive where
  target : Option String := none
  span : Option String := none
  fields : List FieldMatch := []
  limit : Limit
deriving DecidableEq, Repr, Inhabited

namespace Directive

/-- The parts of the workspace whose events a plain level applies to. -/
def workTargets : List String :=
  ["profile_cli", "profile_ingest", "profile_map", "profile_model", "profile_report"]

/-- The written directives that hold when nothing else is asked for: a limit for the parts of the
workspace, and warnings from anything else. -/
def defaultText (limit : Limit) : String :=
  ",".intercalate ("warn" :: workTargets.map fun target => target ++ "=" ++ limit.name)

/-- Whether a level or a target can begin with a character. -/
def isTargetStart (c : Char) : Bool :=
  c = '_' || c = ':' || c = '-' || Text.isAlphanumeric c

/-! ### Fields -/

/-- The greatest number that a field can have. -/
def maxNumber : Nat := 0xFFFFFFFFFFFFFFFF

/-- What a written value asks for. A text that is no number has to be a pattern. -/
def expectedValue? (written : List Char) : Option ExpectedValue :=
  match Text.unsigned? written with
  | some value => some (if value ≤ maxNumber then .number value else .unmet)
  | none =>
    if written = "true".toList || written = "false".toList || Text.isDecimal written then
      some .unmet
    else (Text.Pattern.ofText? written).map (.text (String.ofList written))

/-- The field that a written condition asks for. Of several signs of equality the first two bound
the value. -/
def fieldMatch? (written : List Char) : Option FieldMatch :=
  match Text.cut? ['='] written with
  | none => some ⟨String.ofList written, none⟩
  | some (name, value) => do
    return ⟨String.ofList name, some (← expectedValue? (value.takeWhile (· ≠ '=')))⟩

/-! ### Reading a directive

The marks of a directive are looked for in its text without the blanks at the ends, but its parts
are taken from the whole text, from the bytes that have the same numbers there. So blanks in front
move every part to the left, and blanks at the end belong to a part that goes to the end. -/

/-- The limit that is written from a byte on; where nothing is written, everything is let
through. -/
def limitFrom? (text : List Char) (start : Nat) : Option Limit := do
  let written ← Text.dropBytes? start text
  if written.isEmpty then return some .trace else Limit.ofText? (String.ofList written)

/-- The limit after a span that ends before a byte, where `marks` is the searched text from there
on. It may be left out with its sign of equality. -/
def limitAfterSpan? (text : List Char) (start : Nat) : List Char → Option Limit
  | [] => some (some .trace)
  | '=' :: _ => limitFrom? text (start + 1)
  | _ => none

/-- The directive whose span begins at a byte, where `marks` is the searched text from there on. -/
def ofSpanAt? (text : List Char) (target : Option String) (start : Nat) (marks : List Char) :
    Option Directive := do
  let name := marks.takeWhile fun c => c ≠ ']' && c ≠ '\x7b'
  let stop := start + Text.byteCount name
  let span ← Text.bytes? start stop text
  match marks.drop name.length with
  | ']' :: rest =>
    let limit ← limitAfterSpan? text (stop + 1) rest
    return { target, span := some (String.ofList span), limit }
  | '\x7b' :: rest =>
    let (field, rest) ← Text.cut? ['\x7d'] rest
    let fieldStop := stop + 1 + Text.byteCount field
    guard (field ≠ [])
    let field ← fieldMatch? (← Text.bytes? (stop + 1) fieldStop text)
    let limit ← limitAfterSpan? text (fieldStop + 2) (← Text.after? [']'] rest)
    let span := if span.isEmpty then none else some (String.ofList span)
    return { target, span, fields := [field], limit }
  | _ => none

/-- The directive that begins with a level or a target, where `marks` is the searched text. -/
def ofTargetText? (text marks : List Char) : Option Directive := do
  let target := marks.takeWhile fun c => c ≠ '=' && c ≠ '['
  let stop := Text.byteCount target
  match marks.drop target.length with
  | [] =>
    let text := String.ofList text
    match Limit.ofText? text with
    | some limit => return { limit }
    | none => return { target := some text, limit := some .trace }
  | mark :: rest =>
    let target := some (String.ofList (← Text.bytes? 0 stop text))
    if mark = '=' then return { target, limit := ← limitFrom? text (stop + 1) }
    else ofSpanAt? text target (stop + 1) rest

/-- The directive with a written form. -/
def ofText? (written : String) : Option Directive :=
  let text := written.toList
  match Text.trimBlank text with
  | [] => none
  | '[' :: rest => ofSpanAt? text none 1 rest
  | c :: rest => if isTargetStart c then ofTargetText? text (c :: rest) else none

/-! ### Reading a run of directives -/

/-- The parts of a text between commas, empty ones left out. -/
def splitCommas (text : String) : List String :=
  let add (parts : List (List Char)) (c : Char) : List (List Char) :=
    if c = ',' then [] :: parts
    else match parts with
      | [] => [[c]]
      | part :: rest => (c :: part) :: rest
  ((text.toList.foldl add [[]]).reverse.map fun part => String.ofList part.reverse).filter (· ≠ "")

/-- All directives of a written run of them, separated by commas. -/
def allOfText? (text : String) : Option (List Directive) := (splitCommas text).mapM ofText?

end Directive

end CollectionProfile.Log
