/-!
# Wrapping lines

A line that is wider than its column is broken between words. A word goes on the current line where
it fits; one that is longer than a whole line is broken itself. A line with less than three columns
left is full.
-/

namespace CollectionProfile.Grid

/-- The words of a line: what stands between single spaces. -/
def words : List Char → List (List Char)
  | [] => [[]]
  | c :: rest =>
    match words rest with
    | [] => [[]]
    | word :: more => if c = ' ' then [] :: word :: more else (c :: word) :: more

/-- Lines that are done, and the line to which words are still added. -/
structure Wrapped where
  done : List (List Char)
  current : List Char
deriving DecidableEq, Repr

/-- A line after a word was put on it; the line is done where it is full. -/
def endIfFull (width : Nat) (line : List Char) : Wrapped :=
  if width - 2 < line.length then ⟨[line], []⟩ else ⟨[], line⟩

/-- Taking a whole line off a word shortens it. -/
theorem length_drop_lt {width : Nat} {word : List Char}
    (h : ¬(word.length ≤ width ∨ width = 0)) : (word.drop width).length < word.length := by
  rw [List.length_drop]
  omega

/-- A word put on a fresh line, and broken as often as it is longer than a line. -/
def startWord (width : Nat) (word : List Char) : Wrapped :=
  if h : word.length ≤ width ∨ width = 0 then endIfFull width word
  else
    have := length_drop_lt h
    let more := startWord width (word.drop width)
    ⟨word.take width :: more.done, more.current⟩
termination_by word.length
decreasing_by assumption

/-- A line after one more word. -/
def addWord (width : Nat) (line word : List Char) : Wrapped :=
  if line.isEmpty then startWord width word
  else
    let free := width - line.length - 1
    if line.length + 1 + word.length ≤ width then endIfFull width (line ++ ' ' :: word)
    else if 2 < free ∧ width < word.length then
      -- The word has to be broken anyway, so its head fills the line.
      let more := startWord width (word.drop free)
      ⟨(line ++ ' ' :: word.take free) :: more.done, more.current⟩
    else
      let more := startWord width word
      ⟨line :: more.done, more.current⟩

/-- The lines that remain to be made of a line and more words. -/
def wrapWords (width : Nat) (line : List Char) : List (List Char) → List (List Char)
  | [] => if line.isEmpty then [] else [line]
  | word :: rest =>
    let next := addWord width line word
    next.done ++ wrapWords width next.current rest

/-- A line wrapped to a width. A line that fits stays as it is. -/
def wrap (width : Nat) (line : List Char) : List (List Char) :=
  if line.length ≤ width then [line] else wrapWords width [] (words line)

end CollectionProfile.Grid
