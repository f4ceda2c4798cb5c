/-!
# Bytes of a text

Parts of a text by the numbers of their bytes in UTF-8. A part exists only if it begins and ends
between two characters.
-/

namespace CollectionProfile.Text

/-- The number of bytes of a text. -/
def byteCount : List Char → Nat
  | [] => 0
  | c :: rest => c.utf8Size + byteCount rest

/-- The text after a number of bytes. -/
def dropBytes? : Nat → List Char → Option (List Char)
  | 0, text => some text
  | _ + 1, [] => none
  | count + 1, c :: rest =>
    if c.utf8Size ≤ count + 1 then dropBytes? (count + 1 - c.utf8Size) rest else none

/-- The text up to a number of bytes. -/
def takeBytes? : Nat → List Char → Option (List Char)
  | 0, _ => some []
  | _ + 1, [] => none
  | count + 1, c :: rest =>
    if c.utf8Size ≤ count + 1 then (takeBytes? (count + 1 - c.utf8Size) rest).map (c :: ·) else none

/-- The text between two numbers of bytes. -/
def bytes? (start stop : Nat) (text : List Char) : Option (List Char) := do
  takeBytes? (stop - start) (← dropBytes? start text)

end CollectionProfile.Text
