import CollectionProfile.Text.Visible

/-!
# Quoted texts

A text in double quotes, for people to read: quotes and backslashes are escaped, and so is every
character that would not be seen.
-/

namespace CollectionProfile.Text

/-- A character inside a quoted text. -/
def showChar (c : Char) : List Char :=
  if c = '"' then ['\\', '"']
  else if c = '\\' then ['\\', '\\']
  else if c = '\n' then ['\\', 'n']
  else if c = '\r' then ['\\', 'r']
  else if c = '\t' then ['\\', 't']
  else if c.toNat = 0 then ['\\', '0']
  else if isVisible c then [c]
  else "\\u\x7b".toList ++ Nat.toDigits 16 c.toNat ++ ['\x7d']

/-- The quoted form of a text. -/
def quoted (text : String) : String := "\"" ++ String.ofList (text.toList.flatMap showChar) ++ "\""

end CollectionProfile.Text
