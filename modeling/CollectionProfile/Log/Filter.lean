import CollectionProfile.Log.Directive

/-!
# Filtering a log

A filter decides which events and spans are let through. Of the directives without a span, the most
specific one that applies to an event decides. Directives that name a span or fields let the spans
they match through, and inside those every event up to their level.
-/

namespace CollectionProfile.Log

/-- A set of directives that is ready to use. -/
structure Filter where
  /-- The directives that apply wherever an event stands, the most specific first. -/
  everywhere : List Directive
  /-- The directives that apply to spans. -/
  inside : List Directive
  /-- The widest limit of any directive, among them those that later ones have replaced. What is
  beyond it is never let through. -/
  widest : Limit
deriving DecidableEq, Repr

/-- A span that has been entered, with the limit that holds inside it on account of the span
itself. -/
structure EnteredSpan where
  span : Span
  limit : Limit
deriving DecidableEq, Repr

namespace Filter

/-- Whether a directive applies to spans. -/
def isSpanDirective (directive : Directive) : Bool :=
  directive.span.isSome || !directive.fields.isEmpty

/-- Whether a directive applies wherever an event stands. -/
def isEverywhere (directive : Directive) : Bool :=
  directive.span.isNone && directive.fields.all (·.value.isNone)

/-- How specific a directive is: by the length of its target, then by the number of its fields. -/
def specificity (directive : Directive) : Nat × Nat :=
  (directive.target.elim 0 (·.utf8ByteSize + 1), directive.fields.length)

/-- The names of the fields that a directive asks for. -/
def fieldNames (directive : Directive) : List String := directive.fields.map (·.name)

/-- Whether one directive goes before another one: the more specific goes first, and of two that are
equally so the one with the greater target or else with the greater names. -/
def goesBefore (a b : Directive) : Bool :=
  let (a₁, a₂) := specificity a
  let (b₁, b₂) := specificity b
  if a₁ ≠ b₁ then decide (b₁ < a₁)
  else if a₂ ≠ b₂ then decide (b₂ < a₂)
  else if a.target ≠ b.target then decide (b.target.getD "" < a.target.getD "")
  else decide (fieldNames b < fieldNames a)

/-- Whether two directives apply to the same events. -/
def sameEvents (a b : Directive) : Bool :=
  a.target = b.target && fieldNames a = fieldNames b

/-- A run of directives, the most specific first, with one more. It takes the place of one for the
same events. -/
def insert (directive : Directive) : List Directive → List Directive
  | [] => [directive]
  | head :: rest =>
    if sameEvents directive head then directive :: rest
    else if goesBefore directive head then directive :: head :: rest
    else head :: insert directive rest

/-- Whether two directives apply to the same spans. -/
def sameSpans (a b : Directive) : Bool :=
  a.target = b.target && a.span = b.span && a.fields = b.fields

/-- Directives that apply to spans, with one more. It takes the place of one for the same spans. -/
def insertInside (directives : List Directive) (directive : Directive) : List Directive :=
  directives.filter (!sameSpans directive ·) ++ [directive]

/-- The widest limit that some directives set, where `inside` are those of them that apply to
spans. -/
def widestOf (directives inside : List Directive) : Limit :=
  -- Values are known only once a span is entered, so nothing can be ruled out before.
  if inside.any (·.fields.any (·.value.isSome)) then some .trace
  else directives.foldl (fun limit directive => limit.max directive.limit) none

/-- The filter made of some directives. Without any, only errors are let through. -/
def ofDirectives (given : List Directive) : Filter :=
  let directives := if given.isEmpty then [{ limit := some .error }] else given
  let inside := (directives.filter isSpanDirective).foldl insertInside []
  { -- A directive with mere field names applies to events that carry them as well.
    everywhere := (directives.filter isEverywhere).foldl (fun found d => insert d found) []
    inside
    widest := widestOf directives inside }

/-- The filter with a written form. -/
def ofText? (text : String) : Option Filter := (Directive.allOfText? text).map ofDirectives

/-- Whether a directive applies to a target. -/
def coversTarget (directive : Directive) (target : String) : Bool :=
  directive.target.all fun start => start.toList.isPrefixOf target.toList

/-- Whether the directives that apply everywhere let something through. `names` are the fields that
an event carries; of a span no fields are asked for. -/
def allowsEverywhere (filter : Filter) (level : Level) (target : String)
    (names : Option (List String)) : Bool :=
  match filter.everywhere.find? fun directive =>
      coversTarget directive target &&
        names.all fun names => directive.fields.all fun f => names.contains f.name with
  | some directive => directive.limit.allows level
  | none => false

/-- The span directives that match a span by target, name and names of fields. -/
def matching (filter : Filter) (span : Span) : List Directive :=
  filter.inside.filter fun directive =>
    coversTarget directive span.target && directive.span.all (· = span.name) &&
      directive.fields.all fun f => span.fields.any (·.1 = f.name)

/-- Whether a value is what is expected of it. -/
def valueMatches : ExpectedValue → Value → Bool
  | .number expected, .number value => expected = value
  | .text _ pattern, .plain text => pattern.matchesAll text.toList
  | .text _ pattern, .quoted text => pattern.matchesAll (Text.quoted text).toList
  | _, _ => false

/-- Whether the fields of a span have the values that a directive asks for. -/
def valuesMatch (directive : Directive) (span : Span) : Bool :=
  directive.fields.all fun wanted => wanted.value.all fun expected =>
    span.fields.any fun (name, value) => name = wanted.name && valueMatches expected value

/-- The limit that a span brings about inside it. -/
def limitInside (filter : Filter) (span : Span) : Limit :=
  (filter.matching span).foldl
    (fun limit d => if valuesMatch d span then limit.max d.limit else limit) none

/-- Whether the spans that have been entered let a level through. -/
def allowsInside (entered : List EnteredSpan) (level : Level) : Bool :=
  entered.any (·.limit.allows level)

/-- The entered spans, the outermost first, after one more span is entered; a span that is not let
through leaves no trace. -/
def enter (filter : Filter) (entered : List EnteredSpan) (span : Span) : List EnteredSpan :=
  let isAllowed := filter.widest.allows span.level &&
    (!(filter.matching span).isEmpty || allowsInside entered span.level ||
      filter.allowsEverywhere span.level span.target none)
  if isAllowed then entered ++ [⟨span, filter.limitInside span⟩] else entered

/-- Whether an event inside the entered spans is let through. -/
def allows (filter : Filter) (entered : List EnteredSpan) (event : Event) : Bool :=
  filter.widest.allows event.level &&
    (allowsInside entered event.level ||
      filter.allowsEverywhere event.level event.target (some ("message" :: event.fields.map (·.1))))

end Filter

end CollectionProfile.Log
