import CollectionProfile.Text.Occurrence
import CollectionProfile.Text.Pattern.Flags

/-!
# Classes in brackets

A class in brackets is a union of characters, ranges, named classes and other classes in brackets.
Unions may be joined by operations on sets, from left to right. A circumflex in front takes
everything else instead. Along with a class goes how deep it is nested.
-/

namespace CollectionProfile.Text

/-- An operation on sets that is written between two unions. -/
inductive SetOperation
  | intersection
  | difference
  | symmetricDifference
deriving DecidableEq, Repr, Inhabited

/-- The class that an operation gives. -/
def SetOperation.apply (operation : SetOperation) (a b : CharClass) : CharClass :=
  match operation with
  | .intersection => a.intersection b
  | .difference => a.difference b
  | .symmetricDifference => a.symmetricDifference b

/-- How deep something is nested whose parts are nested as deep as given. One part alone makes no
level. -/
def nesting : List Nat → Nat
  | [] => 0
  | [depth] => depth
  | depth :: depths => depths.foldl max depth + 1

/-- A class, and how deep it is nested. -/
structure NestedClass where
  ranges : CharClass
  depth : Nat := 0
deriving DecidableEq, Repr, Inhabited

/-- A class whose closing bracket has not been met. -/
structure OpenClass where
  isNegated : Bool
  /-- What stands before the last operation, with that operation. -/
  left : Option (NestedClass × SetOperation) := none
  /-- What has been read since. -/
  union : CharClass := []
  /-- How deep the parts of the union are nested. -/
  depths : List Nat := []
deriving DecidableEq, Repr, Inhabited

namespace Flags

/-- The class as it is to be understood where letters stand for either case. -/
def eitherCase? (flags : Flags) (a : CharClass) : Option CharClass :=
  if !flags.ignoresCase then some a
  else if !flags.isUnicode then some a.eitherCase
  else if a.isEmpty then some a
  else none

/-- The class, or what is not in it. -/
def negate? (flags : Flags) (isNegated : Bool) (a : CharClass) : Option CharClass :=
  if !isNegated then some a
  else if flags.isUnicode then some a.complement
  else none

/-- The class of an atom in brackets. -/
def member? (flags : Flags) : Atom → Option CharClass
  | .literal c _ => if flags.isUnicode || c.toNat ≤ 0x7F then some (.single c) else none
  | .oneOf ranges => some ranges
  | .border _ => none

/-- The class of a range. -/
def range? (flags : Flags) : Atom → Atom → Option CharClass
  | .literal first isByte, .literal last isByte' => do
    let _ ← flags.member? (.literal first isByte)
    let _ ← flags.member? (.literal last isByte')
    guard (first ≤ last)
    return [(first.toNat, last.toNat)]
  | _, _ => none

end Flags

namespace OpenClass

/-- The class with one more part of its union. -/
def add (opened : OpenClass) (part : NestedClass) : OpenClass :=
  { opened with union := opened.union ++ part.ranges, depths := part.depth :: opened.depths }

/-- What has been read so far, with the last operation carried out. -/
def settled? (opened : OpenClass) (flags : Flags) : Option NestedClass :=
  match opened.left with
  | none => some ⟨opened.union, nesting opened.depths⟩
  | some (left, operation) => do
    let ranges := operation.apply (← flags.eitherCase? left.ranges)
      (← flags.eitherCase? opened.union)
    return ⟨ranges, nesting [left.depth, nesting opened.depths]⟩

/-- The class after the sign of an operation. -/
def operate? (opened : OpenClass) (flags : Flags) (operation : SetOperation) :
    Option OpenClass := do
  return { isNegated := opened.isNegated, left := some (← opened.settled? flags, operation) }

/-- The class once it is closed. -/
def close? (opened : OpenClass) (flags : Flags) : Option NestedClass := do
  let ⟨ranges, depth⟩ ← opened.settled? flags
  return ⟨← flags.negate? opened.isNegated (← flags.eitherCase? ranges), depth + 1⟩

end OpenClass

namespace Bracket

/-- A class after the hyphens at its start, which stand for themselves, and the rest. -/
def addHyphens (flags : Flags) (opened : OpenClass) (text : List Char) : OpenClass × List Char :=
  match flags.skip text with
  | '-' :: rest =>
    if rest.length < text.length then addHyphens flags (opened.add ⟨.single '-', 0⟩) rest
    else (opened, rest)
  | rest => (opened, rest)
termination_by text.length

/-- The class whose opening bracket has been read, and the rest. A closing bracket that comes first
stands for itself. -/
def openClass (flags : Flags) (text : List Char) : OpenClass × List Char :=
  let (isNegated, text) := match flags.skip text with
    | '^' :: rest => (true, rest)
    | rest => (false, rest)
  match addHyphens flags { isNegated } text with
  | (opened, ']' :: rest) =>
    if opened.depths.isEmpty then (opened.add ⟨.single ']', 0⟩, rest) else (opened, ']' :: rest)
  | opened => opened

/-- The named class whose opening bracket has been read, whether it is negated, and the rest. -/
def named? (text : List Char) : Option (CharClass × Bool × List Char) := do
  let text ← after? [':'] text
  let (isNegated, text) := match text with
    | '^' :: rest => (true, rest)
    | _ => (false, text)
  let name := text.takeWhile (· ≠ ':')
  let ranges ← CharClass.named? (String.ofList name)
  return (ranges, isNegated, ← after? ":]".toList (text.drop name.length))

/-- The atom that comes next in a class, and the rest. -/
def atom? (flags : Flags) : List Char → Option (Atom × List Char)
  | [] => none
  | '\\' :: rest => flags.escape? rest
  | c :: rest => some (.literal c false, rest)

/-- The character or range that comes next in a class, and the rest. A hyphen before another hyphen
or a closing bracket makes no range. -/
def item? (flags : Flags) (text : List Char) : Option (CharClass × List Char) := do
  let (first, rest) ← atom? flags text
  match flags.skip rest with
  | '-' :: rest =>
    match flags.skip rest with
    | '-' :: _ | ']' :: _ => return (← flags.member? first, '-' :: rest)
    | rest =>
      let (last, rest) ← atom? flags rest
      return (← flags.range? first last, rest)
  | rest => return (← flags.member? first, rest)

/-- A step of reading a class: what has become of the classes that are open, the innermost first, or
the outermost class once it is closed, and the rest. -/
def step? (flags : Flags) (opened : OpenClass) (outer : List OpenClass) (text : List Char) :
    Option ((OpenClass × List OpenClass ⊕ NestedClass) × List Char) :=
  match flags.skip text with
  | '[' :: rest =>
    match named? rest with
    | some (ranges, isNegated, rest) => do
      let ranges ← flags.negate? isNegated (← flags.eitherCase? ranges)
      return (.inl (opened.add ⟨ranges, 0⟩, outer), rest)
    | none =>
      let (inner, rest) := openClass flags rest
      some (.inl (inner, opened :: outer), rest)
  | ']' :: rest => do
    let closed ← opened.close? flags
    match outer with
    | [] => return (.inr closed, rest)
    | around :: outer => return (.inl (around.add closed, outer), rest)
  | '&' :: '&' :: rest => do return (.inl (← opened.operate? flags .intersection, outer), rest)
  | '-' :: '-' :: rest => do return (.inl (← opened.operate? flags .difference, outer), rest)
  | '~' :: '~' :: rest => do
    return (.inl (← opened.operate? flags .symmetricDifference, outer), rest)
  | rest => do
    let (ranges, rest) ← item? flags rest
    return (.inl (opened.add ⟨ranges, 0⟩, outer), rest)

/-- The outermost of the classes that are open, and the rest. Every step takes up some text. -/
def readFrom? (flags : Flags) (opened : OpenClass) (outer : List OpenClass) (text : List Char) :
    Option (NestedClass × List Char) :=
  match step? flags opened outer text with
  | none => none
  | some (.inr closed, rest) => some (closed, rest)
  | some (.inl (opened, outer), rest) =>
    if rest.length < text.length then readFrom? flags opened outer rest else none
termination_by text.length

/-- The class whose opening bracket has been read, and the rest. -/
def read? (flags : Flags) (text : List Char) : Option (NestedClass × List Char) :=
  let (opened, rest) := openClass flags text
  readFrom? flags opened [] rest

end Bracket

end CollectionProfile.Text
