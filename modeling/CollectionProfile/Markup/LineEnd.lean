import CollectionProfile.Markup.Reference

/-!
# Line ends in text

A carriage return that is written as itself, alone or with a line feed after it, is a line feed. A
carriage return that is written as a reference stays, and so does the one character after it. A
reference to an entity divides a text into segments that are settled one by one.
-/

namespace CollectionProfile.Markup

/-- What a text consists of once its line ends are settled. -/
inductive Segment
  | text (content : List Char)
  | entity (name : String)
deriving DecidableEq, Repr, Inhabited

namespace Segment

/-- The settled text, latest character first, after one more character. `isLast` says that nothing
comes after the character. -/
def push (settled : List Char) (c : Char) (isLast : Bool) : List Char :=
  match settled with
  | '\r' :: before =>
    -- A carriage return that was not settled yet becomes a line feed, which a line feed joins.
    if isLast && c = '\r' then '\n' :: '\n' :: before
    else if c = '\n' then '\n' :: before
    else c :: '\n' :: before
  -- Another carriage return waits for the character after it, if there is one.
  | _ => if isLast && c = '\r' then '\n' :: settled else c :: settled

/-- The segment that a settled text makes; an empty one makes none. -/
def flush (settled : List Char) : List Segment :=
  if settled.isEmpty then [] else [.text settled.reverse]

/-- The segments of the pieces that remain. `settled` is the current text, latest character first,
and `asIs` says that the next plain character is taken as it is. Within the value of an entity,
characters written as references are treated like plain ones. -/
def settle (inEntity : Bool) (settled : List Char) (asIs : Bool) : List Piece → List Segment
  | [] => flush settled
  | .plain c :: rest =>
    if asIs then settle inEntity (c :: settled) false rest
    else settle inEntity (push settled c rest.isEmpty) false rest
  | .referred c :: rest =>
    if inEntity then settle inEntity (push settled c rest.isEmpty) asIs rest
    else settle inEntity (c :: settled) true rest
  | .entity name :: rest => flush settled ++ .entity name :: settle inEntity [] false rest

/-- The segments of a text. -/
def ofPieces (inEntity : Bool) (pieces : List Piece) : List Segment :=
  settle inEntity [] false pieces

/-- The contents of a character section with its line ends settled. -/
def settleLiteral (content : List Char) : List Char :=
  go [] content
where
  /-- The settled text after the characters that remain. -/
  go (settled : List Char) : List Char → List Char
    | [] => settled.reverse
    | c :: rest => go (push settled c rest.isEmpty) rest

end Segment

end CollectionProfile.Markup
