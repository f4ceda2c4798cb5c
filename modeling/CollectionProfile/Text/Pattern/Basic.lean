import CollectionProfile.Text.CodePoint

/-!
# Patterns

A pattern describes texts. It is matched from the start of a text, and of all the ways to match it
the preferred one counts: the first alternative comes before the second, and a greedy repetition
tries to go on before it stops. A text is matched as a whole when the preferred way uses it up.

Matching follows all ways at once, in the order of preference. What a way still has to match is its
goal. Of several ways that have come to the same goal at the same place only the first is followed,
so a repetition never goes round without using up a character.
-/

namespace CollectionProfile.Text

/-- A condition on the characters around a place in a text. -/
inductive Border
  | textStart
  | textEnd
  /-- The start of a line, where line feeds end lines. -/
  | lineStart
  /-- The end of a line, where line feeds end lines. -/
  | lineEnd
  /-- The start of a line, where carriage returns end lines as well. -/
  | anyLineStart
  /-- The end of a line, where carriage returns end lines as well. -/
  | anyLineEnd
  | wordEdge
  | noWordEdge
  | wordStart
  | wordEnd
deriving DecidableEq, Repr, Inhabited

/-- The letters, digits and the underscore of which words are made. -/
def isWordChar (c : Char) : Bool := c.isAlphanum || c = '_'

/-- Whether the condition holds between two characters, where there may be none at the ends of the
text. -/
def Border.holds (border : Border) (previous next : Option Char) : Bool :=
  let fromWord := previous.any isWordChar
  let toWord := next.any isWordChar
  match border with
  | .textStart => previous.isNone
  | .textEnd => next.isNone
  | .lineStart => previous.all (· = '\n')
  | .lineEnd => next.all (· = '\n')
  | .anyLineStart => previous.all (· = '\n') || (previous = some '\r' && next ≠ some '\n')
  | .anyLineEnd => next.all (· = '\r') || (next = some '\n' && previous ≠ some '\r')
  | .wordEdge => fromWord != toWord
  | .noWordEdge => fromWord == toWord
  | .wordStart => !fromWord && toWord
  | .wordEnd => fromWord && !toWord

/-- A description of texts. -/
inductive Pattern
  /-- The empty text. -/
  | empty
  /-- One character of a class. -/
  | oneOf (ranges : List (Nat × Nat))
  /-- The empty text at a place where the condition holds. -/
  | border (border : Border)
  | sequence (first second : Pattern)
  /-- Either of two, the first by preference. -/
  | choice (first second : Pattern)
  /-- The repeated pattern, and then more of it. -/
  | oneOrMore (isGreedy : Bool) (repeated : Pattern)
  /-- Any number of further repetitions. -/
  | more (isGreedy : Bool) (repeated : Pattern)
deriving DecidableEq, Repr, Inhabited

/-- What a way to match a pattern still has to match, one after another. -/
abbrev Goal := List Pattern

/-- The goals that a goal comes down to before a character is used up, the preferred one first. A
goal that is reached, or that needs a character next, comes down to nothing else. -/
def Goal.branches? (previous next : Option Char) : Goal → Option (List Goal)
  | [] | .oneOf _ :: _ => none
  | .empty :: goal => some [goal]
  | .border border :: goal => some (if border.holds previous next then [goal] else [])
  | .sequence first second :: goal => some [first :: second :: goal]
  | .choice first second :: goal => some [first :: goal, second :: goal]
  | .oneOrMore isGreedy repeated :: goal => some [repeated :: .more isGreedy repeated :: goal]
  | .more isGreedy repeated :: goal =>
    let again := repeated :: .more isGreedy repeated :: goal
    some (if isGreedy then [again, goal] else [goal, again])

/-- The goal after a character, if the character can come next. -/
def Goal.after? (c : Char) : Goal → Option Goal
  | .oneOf ranges :: goal => if inRanges ranges c then some goal else none
  | _ => none

/-- The goals that matching a pattern can come to before the goal that follows it. -/
def Pattern.goals (pattern : Pattern) (goal : Goal) : List Goal :=
  (pattern :: goal) :: match pattern with
    | .empty | .oneOf _ | .border _ => []
    | .sequence first second => first.goals (second :: goal) ++ second.goals goal
    | .choice first second => first.goals goal ++ second.goals goal
    | .oneOrMore isGreedy repeated =>
      (.more isGreedy repeated :: goal) :: repeated.goals (.more isGreedy repeated :: goal)
    | .more isGreedy repeated => repeated.goals (.more isGreedy repeated :: goal)

/-- The goals, in order of preference, that are reached or need a character next at a place between
two characters, where `goals` have been come to. Only goals among `unseen` are followed, each of
them once. -/
def Goal.settle (previous next : Option Char) (unseen : List Goal) : List Goal → List Goal
  | [] => []
  | goal :: goals =>
    if h : goal ∈ unseen then
      have : (unseen.erase goal).length < unseen.length := by
        have := List.length_pos_of_mem h
        have := List.length_erase_of_mem h
        omega
      match goal.branches? previous next with
      | none => goal :: settle previous next (unseen.erase goal) goals
      | some branches => settle previous next (unseen.erase goal) (branches ++ goals)
    else settle previous next unseen goals
termination_by goals => (unseen.length, goals.length)

/-- Whether the preferred way among those that have come to the given goals uses up the rest of a
text. A way that reaches its goal before the end of the text ends all that are less preferred. -/
def Goal.useUp (all : List Goal) (previous : Option Char) (goals : List Goal) :
    List Char → Bool
  | [] => (settle previous none all goals).contains []
  | c :: rest =>
    let going := (settle previous (some c) all goals).takeWhile (· ≠ [])
    useUp all (some c) (going.filterMap (Goal.after? c)) rest

/-- Whether a pattern matches a whole text. -/
def Pattern.matchesAll (pattern : Pattern) (text : List Char) : Bool :=
  Goal.useUp ([] :: pattern.goals []) none [[pattern]] text

end CollectionProfile.Text
