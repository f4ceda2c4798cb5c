import CollectionProfile.Text.CodePoint

/-!
# Classes of characters

Classes as unions of ranges of code points, with the operations of sets on them. No range is empty,
so a class is empty exactly when it has no ranges.
-/

namespace CollectionProfile.Text

/-- The union of ranges of code points. -/
abbrev CharClass := List (Nat × Nat)

namespace CharClass

/-- The class of one character. -/
def single (c : Char) : CharClass := [(c.toNat, c.toNat)]

/-- The class of all characters. -/
def all : CharClass := [(0, 0xD7FF), (0xE000, 0x10FFFF)]

/-- What a range leaves of another one. -/
def without (removed range : Nat × Nat) : CharClass :=
  if removed.2 < range.1 || range.2 < removed.1 then [range]
  else (if range.1 < removed.1 then [(range.1, removed.1 - 1)] else [])
    ++ (if removed.2 < range.2 then [(removed.2 + 1, range.2)] else [])

/-- What is in the first class and not in the second. -/
def difference (a b : CharClass) : CharClass :=
  b.foldl (fun left removed => left.flatMap (without removed)) a

/-- What is in both classes. -/
def intersection (a b : CharClass) : CharClass := a.difference (a.difference b)

/-- What is in exactly one of the classes. -/
def symmetricDifference (a b : CharClass) : CharClass := a.difference b ++ b.difference a

/-- What is not in the class. -/
def complement (a : CharClass) : CharClass := all.difference a

/-- The small letters, or the capital ones, of the basic alphabet. -/
def smallLetters : CharClass := [('a'.toNat, 'z'.toNat)]

@[inherit_doc smallLetters]
def capitalLetters : CharClass := [('A'.toNat, 'Z'.toNat)]

def letters : CharClass := capitalLetters ++ smallLetters

def digits : CharClass := [('0'.toNat, '9'.toNat)]

/-- The letters, digits and the underscore of which words are made. -/
def wordChars : CharClass := digits ++ letters ++ single '_'

/-- The blank characters among the first 128, the vertical tab and the form feed included. -/
def blanks : CharClass := [('\t'.toNat, '\r'.toNat), (' '.toNat, ' '.toNat)]

/-- The class together with the letters of the basic alphabet that differ from those in it by case
alone. -/
def eitherCase (a : CharClass) : CharClass :=
  let shift := 'a'.toNat - 'A'.toNat
  a ++ (a.intersection capitalLetters).map (fun (first, last) => (first + shift, last + shift))
    ++ (a.intersection smallLetters).map (fun (first, last) => (first - shift, last - shift))

/-- The classes that have names. -/
def named? (name : String) : Option CharClass :=
  [("alnum", digits ++ letters), ("alpha", letters), ("ascii", [(0, 0x7F)]),
    ("blank", single '\t' ++ single ' '), ("cntrl", [(0, 0x1F), (0x7F, 0x7F)]), ("digit", digits),
    ("graph", [(0x21, 0x7E)]), ("lower", smallLetters), ("print", [(0x20, 0x7E)]),
    ("punct", [(0x21, 0x2F), (0x3A, 0x40), (0x5B, 0x60), (0x7B, 0x7E)]), ("space", blanks),
    ("upper", capitalLetters), ("word", wordChars),
    ("xdigit", digits ++ [('A'.toNat, 'F'.toNat), ('a'.toNat, 'f'.toNat)])].lookup name

end CharClass

end CollectionProfile.Text
