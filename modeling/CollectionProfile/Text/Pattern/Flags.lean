import CollectionProfile.Text.Blank
import CollectionProfile.Text.Digit
import CollectionProfile.Text.Pattern.Basic
import CollectionProfile.Text.Pattern.CharClass

/-!
# Flags of written patterns

How the parts of a written pattern are to be understood depends on flags, which the pattern itself
can change. Unless the flag for the whole character set is taken away, nothing may be written that
would need its properties: no letters in either case, no classes such as that of digits, and no
borders of words. Where it is taken away, nothing may be written that matches other characters than
the first 128, apart from characters that are written as themselves.
-/

namespace CollectionProfile.Text

/-- How a part of a written pattern is to be understood. -/
structure Flags where
  /-- Letters stand for either case. -/
  ignoresCase : Bool := false
  /-- The borders of the text are those of lines. -/
  isMultiLine : Bool := false
  /-- The dot stands for line ends too. -/
  dotMatchesAll : Bool := false
  /-- Repetitions are greedy only if they are marked. -/
  swapsGreed : Bool := false
  /-- The whole character set is meant. -/
  isUnicode : Bool := true
  /-- Carriage returns end lines too. -/
  hasReturns : Bool := false
  /-- Blanks between the parts of the pattern, and comments, are passed over. -/
  isSpaced : Bool := false
deriving DecidableEq, Repr, Inhabited

/-- A part of a written pattern that stands for at most one character. -/
inductive Atom
  /-- A character; `isByte` says that it was written as a number of two digits. -/
  | literal (c : Char) (isByte : Bool)
  | oneOf (ranges : CharClass)
  | border (border : Border)
deriving DecidableEq, Repr, Inhabited

/-- The text after blanks and comments, where a comment may be going on. -/
def skipComments (inComment : Bool) : List Char → List Char
  | [] => []
  | c :: rest =>
    if inComment then skipComments (c ≠ '\n') rest
    else if isBlank c then skipComments false rest
    else if c = '#' then skipComments true rest
    else c :: rest

namespace Flags

/-- The flags with the one that a letter names set or taken away. -/
def set? (value : Bool) (flags : Flags) : Char → Option Flags
  | 'i' => some { flags with ignoresCase := value }
  | 'm' => some { flags with isMultiLine := value }
  | 's' => some { flags with dotMatchesAll := value }
  | 'U' => some { flags with swapsGreed := value }
  | 'u' => some { flags with isUnicode := value }
  | 'R' => some { flags with hasReturns := value }
  | 'x' => some { flags with isSpaced := value }
  | _ => none

/-- The flags after a written change: letters of flags to set, and after a hyphen of flags to take
away. Nothing may stand there twice, and not just a hyphen at the end. -/
def change? (flags : Flags) (written : List Char) : Option Flags := do
  guard written.Nodup
  guard (written.getLast? ≠ some '-')
  let on := written.takeWhile (· ≠ '-')
  let off := (written.drop on.length).drop 1
  off.foldlM (set? false) (← on.foldlM (set? true) flags)

/-- The text from the next part of the pattern on. -/
def skip (flags : Flags) (text : List Char) : List Char :=
  if flags.isSpaced then skipComments false text else text

/-! ### What atoms stand for -/

/-- The class of a character on its own. -/
def literal? (flags : Flags) (c : Char) (isByte : Bool) : Option CharClass :=
  if flags.isUnicode then if flags.ignoresCase then none else some (.single c)
  else if isByte && 0x7F < c.toNat then none
  else some (if flags.ignoresCase then (CharClass.single c).eitherCase else .single c)

/-- The class that the dot stands for. -/
def dot? (flags : Flags) : Option CharClass :=
  if !flags.isUnicode then none
  else if flags.dotMatchesAll then some .all
  else if flags.hasReturns then some (CharClass.complement (.single '\r' ++ .single '\n'))
  else some (CharClass.complement (.single '\n'))

/-- The border that a circumflex stands for. -/
def startBorder (flags : Flags) : Border :=
  if !flags.isMultiLine then .textStart
  else if flags.hasReturns then .anyLineStart
  else .lineStart

/-- The border that a dollar sign stands for. -/
def endBorder (flags : Flags) : Border :=
  if !flags.isMultiLine then .textEnd
  else if flags.hasReturns then .anyLineEnd
  else .lineEnd

/-- The pattern that an atom stands for. -/
def pattern? (flags : Flags) : Atom → Option Pattern
  | .literal c isByte => (flags.literal? c isByte).map .oneOf
  | .oneOf ranges => some (.oneOf ranges)
  | .border border => some (.border border)

/-! ### Escapes -/

/-- The number that comes next in a given count of hexadecimal digits, going on from the digits
before it, and the rest. -/
def digits? (flags : Flags) : Nat → Nat → List Char → Option (Nat × List Char)
  | 0, value, text => some (value, flags.skip text)
  | count + 1, value, text =>
    match flags.skip text with
    | [] => none
    | c :: rest => do digits? flags count (16 * value + (← digitValue? c)) rest

/-- The character whose number comes next in a given count of digits, and the rest. -/
def numbered? (flags : Flags) (count : Nat) (text : List Char) : Option (Atom × List Char) := do
  let (value, rest) ← flags.digits? count 0 text
  guard value.isValidChar
  return (.literal (Char.ofNat value) (count = 2), rest)

/-- What a character stands for after a backslash, unless digits come after it. -/
def escaped? (flags : Flags) (c : Char) : Option Atom :=
  let basic (atom : Atom) : Option Atom := if flags.isUnicode then none else some atom
  match c with
  | 'a' => some (.literal '\x07' false)
  | 'f' => some (.literal '\x0C' false)
  | 't' => some (.literal '\t' false)
  | 'n' => some (.literal '\n' false)
  | 'r' => some (.literal '\r' false)
  | 'v' => some (.literal '\x0B' false)
  | 'A' => some (.border .textStart)
  | 'z' => some (.border .textEnd)
  | 'd' => basic (.oneOf .digits)
  | 's' => basic (.oneOf .blanks)
  | 'w' => basic (.oneOf .wordChars)
  | 'b' => basic (.border .wordEdge)
  | 'B' => basic (.border .noWordEdge)
  | '<' => basic (.border .wordStart)
  | '>' => basic (.border .wordEnd)
  | _ => if c.toNat ≤ 0x7F && !c.isAlphanum then some (.literal c false) else none

/-- The escape whose backslash has been read, and the rest. -/
def escape? (flags : Flags) : List Char → Option (Atom × List Char)
  | [] => none
  | 'x' :: rest => flags.numbered? 2 rest
  | 'u' :: rest => flags.numbered? 4 rest
  | 'U' :: rest => flags.numbered? 8 rest
  | c :: rest => do return (← flags.escaped? c, rest)

end Flags

end CollectionProfile.Text
