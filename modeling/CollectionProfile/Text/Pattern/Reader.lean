import CollectionProfile.Text.Alphanumeric
import CollectionProfile.Text.Pattern.Bracket

/-!
# Written patterns

`Pattern.ofText?` reads a written pattern: characters and classes, repetitions, alternatives and
groups. Groups may have names, which must differ, and may change flags for what is in them. A change
of flags on its own holds to the end of its group. Repetitions are not counted, there is no way to
look around or back, and nothing is nested deeper than 250 levels.
-/

namespace CollectionProfile.Text

namespace Pattern

/-- Patterns one after another. -/
def ofItems : List Pattern → Pattern
  | [] => .empty
  | [item] => item
  | item :: items => .sequence item (ofItems items)

/-- Alternatives, the preferred one first. -/
def ofBranches : List Pattern → Pattern
  | [] => .empty
  | [branch] => branch
  | branch :: branches => .choice branch (ofBranches branches)

/-- None or one; a greedy one by preference. -/
def optional (isGreedy : Bool) (pattern : Pattern) : Pattern :=
  if isGreedy then .choice pattern .empty else .choice .empty pattern

end Pattern

/-- A pattern, and how deep it is nested. -/
structure NestedPattern where
  pattern : Pattern
  depth : Nat := 0
deriving Inhabited

/-- A group whose end has not been met, or the whole pattern. -/
structure OpenGroup where
  /-- The items of the current alternative, the latest first; a change of flags is no pattern. -/
  items : List (Option NestedPattern) := []
  /-- The alternatives before it, the latest first. -/
  branches : List NestedPattern := []
deriving Inhabited

namespace OpenGroup

/-- The group with one more item. -/
def push (group : OpenGroup) (item : NestedPattern) : OpenGroup :=
  { group with items := some item :: group.items }

/-- The current alternative. -/
def current (group : OpenGroup) : NestedPattern where
  pattern := .ofItems ((group.items.reverse.filterMap id).map (·.pattern))
  depth := nesting (group.items.map fun item => item.elim 0 (·.depth))

/-- The group at the start of its next alternative. -/
def branch (group : OpenGroup) : OpenGroup := { branches := group.current :: group.branches }

/-- The pattern of the whole group. -/
def whole (group : OpenGroup) : NestedPattern :=
  let branches := group.branch.branches
  ⟨.ofBranches (branches.reverse.map (·.pattern)), nesting (branches.map (·.depth))⟩

end OpenGroup

/-- How far the reading of a written pattern has come. -/
structure PatternReading where
  flags : Flags := {}
  /-- The innermost group. -/
  group : OpenGroup := {}
  /-- The groups around it, the innermost first, with the flags that hold again after what is in
  them. -/
  outer : List (Flags × OpenGroup) := []
  /-- The names of groups. -/
  names : List (List Char) := []
deriving Inhabited

namespace PatternReading

/-- The reading with one more item. -/
def push (reading : PatternReading) (pattern : Pattern) : PatternReading :=
  { reading with group := reading.group.push ⟨pattern, 0⟩ }

/-- The reading at the start of a group with the given flags. -/
def enter (reading : PatternReading) (flags : Flags) : PatternReading :=
  { reading with flags, group := {}, outer := (reading.flags, reading.group) :: reading.outer }

/-- The reading after the end of the innermost group. -/
def leave? (reading : PatternReading) : Option PatternReading :=
  match reading.outer with
  | [] => none
  | (flags, around) :: outer =>
    let ⟨pattern, depth⟩ := reading.group.whole
    some { reading with flags, group := around.push ⟨pattern, depth + 1⟩, outer }

/-- The reading in which the latest item is repeated, and the rest: a question mark turns greed
around. -/
def repeat? (reading : PatternReading) (repetition : Bool → Pattern → Pattern)
    (text : List Char) : Option (PatternReading × List Char) :=
  let (isMarked, rest) := match text with
    | '?' :: rest => (true, rest)
    | _ => (false, text)
  match reading.group.items with
  | some ⟨pattern, depth⟩ :: items =>
    let pattern := repetition (isMarked == reading.flags.swapsGreed) pattern
    let group := { reading.group with items := some ⟨pattern, depth + 1⟩ :: items }
    some ({ reading with group }, rest)
  | _ => none

/-- Whether a group may have a name: letters, numerals, dots, brackets and underscores, of which
only letters and underscores come first. -/
def isGroupName (name : List Char) : Bool :=
  name.head?.any (fun c => c = '_' || isAlphabetic c) &&
    name.all fun c => c = '_' || c = '.' || c = '[' || c = ']' || isAlphanumeric c

/-- The reading inside a group whose name comes next, and the rest. -/
def enterNamed? (reading : PatternReading) (text : List Char) :
    Option (PatternReading × List Char) := do
  let (name, rest) ← cut? ['>'] text
  guard (isGroupName name && !reading.names.contains name)
  return ({ reading.enter reading.flags with names := name :: reading.names }, rest)

/-- The reading after a change of flags that comes next, or inside a group with changed flags, and
the rest. -/
def change? (reading : PatternReading) (text : List Char) :
    Option (PatternReading × List Char) := do
  let written := text.takeWhile fun c => c ≠ ':' && c ≠ ')'
  let flags ← reading.flags.change? written
  match text.drop written.length with
  | ':' :: rest => return (reading.enter flags, rest)
  | ')' :: rest =>
    guard (written ≠ [])
    let group := { reading.group with items := none :: reading.group.items }
    return ({ reading with flags, group }, rest)
  | _ => none

/-- The reading after an opening parenthesis, and the rest. -/
def open? (reading : PatternReading) (text : List Char) : Option (PatternReading × List Char) :=
  let text := reading.flags.skip text
  if let some rest := after? "?P<".toList text then reading.enterNamed? rest
  else if let some rest := after? "?<".toList text then reading.enterNamed? rest
  else if let some rest := after? "?".toList text then reading.change? rest
  else some (reading.enter reading.flags, text)

/-- The reading after what begins with a character, and the rest. -/
def step? (reading : PatternReading) (c : Char) (rest : List Char) :
    Option (PatternReading × List Char) :=
  let flags := reading.flags
  match c with
  | '(' => reading.open? rest
  | ')' => reading.leave?.map (·, rest)
  | '|' => some ({ reading with group := reading.group.branch }, rest)
  | '?' => reading.repeat? .optional rest
  | '*' => reading.repeat? (fun isGreedy item => .optional isGreedy (.oneOrMore isGreedy item)) rest
  | '+' => reading.repeat? .oneOrMore rest
  | '\x7b' => none
  | '[' => do
    let (⟨ranges, depth⟩, rest) ← Bracket.read? flags rest
    return ({ reading with group := reading.group.push ⟨.oneOf ranges, depth⟩ }, rest)
  | '.' => flags.dot?.map fun ranges => (reading.push (.oneOf ranges), rest)
  | '^' => some (reading.push (.border flags.startBorder), rest)
  | '$' => some (reading.push (.border flags.endBorder), rest)
  | '\\' => do
    let (atom, rest) ← flags.escape? rest
    return (reading.push (← flags.pattern? atom), rest)
  | c => (flags.pattern? (.literal c false)).map fun pattern => (reading.push pattern, rest)

/-- The reading at the end of a text. Every step takes up some text. -/
def readAll? (reading : PatternReading) (text : List Char) : Option PatternReading :=
  match reading.flags.skip text with
  | [] => some reading
  | c :: rest =>
    match reading.step? c rest with
    | none => none
    | some (reading, rest) =>
      if rest.length < text.length then readAll? reading rest else none
termination_by text.length

end PatternReading

/-- How deep a written pattern may be nested. -/
def Pattern.maxDepth : Nat := 250

/-- The pattern with a written form. -/
def Pattern.ofText? (text : List Char) : Option Pattern := do
  let reading ← PatternReading.readAll? {} text
  guard reading.outer.isEmpty
  let ⟨pattern, depth⟩ := reading.group.whole
  guard (depth ≤ maxDepth)
  return pattern

end CollectionProfile.Text
