import CollectionProfile.Markup.Name
import CollectionProfile.Markup.Scan
import CollectionProfile.Text.Digit

/-!
# References

A text with references in it is a run of pieces: characters written as themselves, characters
written as references, and references to entities.
-/

namespace CollectionProfile.Markup

/-- A piece of a text that may hold references. -/
inductive Piece
  /-- A character that is written as itself. -/
  | plain (c : Char)
  /-- A character that is written as a reference. -/
  | referred (c : Char)
  | entity (name : String)
deriving DecidableEq, Repr, Inhabited

namespace Piece

/-- The characters that have entities of their own. -/
def predefined? (name : List Char) : Option Char :=
  if name = "lt".toList then some '<'
  else if name = "gt".toList then some '>'
  else if name = "amp".toList then some '&'
  else if name = "apos".toList then some '\''
  else if name = "quot".toList then some '"'
  else none

/-- Whether the character is a digit in the given base, ten or sixteen. -/
def isDigit (base : Nat) (c : Char) : Bool := (Text.digitValue? c).any (· < base)

/-- The number that digits spell. -/
def number (base : Nat) (digits : List Char) : Nat :=
  digits.foldl (fun n c => n * base + (Text.digitValue? c).getD 0) 0

/-- The greatest number that a character reference may spell. -/
def maxNumber : Nat := 0xFFFFFFFF

/-- The character with a given number; a number that is no scalar value stands for U+FFFD. -/
def ofNumber (n : Nat) : Except Fault Char := do
  ensure (n ≤ maxNumber) .badReference
  let c := if n.isValidChar then Char.ofNat n else '\uFFFD'
  ensure (isLegal c) .badReference
  return c

/-- The character reference whose digits come next, and the rest from the semicolon on. -/
def scanNumber (base : Nat) (text : List Char) : Except Fault (Piece × List Char) := do
  let digits := text.takeWhile (isDigit base)
  ensure (digits != []) .badReference
  return (.referred (← ofNumber (number base digits)), text.dropWhile (isDigit base))

/-- The reference whose `&` has been read, and the rest from the semicolon on. -/
def scanBody (text : List Char) : Except Fault (Piece × List Char) :=
  if let some rest := Text.after? "#x".toList text then scanNumber 16 rest
  else if let some rest := Text.after? "#".toList text then scanNumber 10 rest
  else do
    let (name, rest) ← scanName text
    return ((predefined? name).elim (.entity (String.ofList name)) .referred, rest)

/-- The reference whose `&` has been read, and the rest. -/
def scanReference (text : List Char) : Except Fault (Piece × List Char) := do
  let (piece, rest) ← scanBody text
  return (piece, ← expect ";" rest)

theorem length_le_of_scanNumber {base : Nat} {text rest : List Char} {piece : Piece}
    (h : scanNumber base text = .ok (piece, rest)) : rest.length ≤ text.length := by
  simp only [scanNumber, bind_eq_ok_iff] at h
  obtain ⟨_, _, _, _, h⟩ := h
  cases h
  exact (List.dropWhile_suffix _).length_le

theorem length_le_of_scanBody {text rest : List Char} {piece : Piece}
    (h : scanBody text = .ok (piece, rest)) : rest.length ≤ text.length := by
  unfold scanBody at h
  split at h
  next r hr =>
    have := length_le_of_scanNumber h
    have := Text.length_of_after? hr
    omega
  split at h
  next r hr =>
    have := length_le_of_scanNumber h
    have := Text.length_of_after? hr
    omega
  next =>
    simp only [bind_eq_ok_iff, Prod.exists] at h
    obtain ⟨name, r, hn, h⟩ := h
    cases h
    exact Nat.le_of_lt (length_lt_of_scanName hn)

theorem length_lt_of_scanReference {text rest : List Char} {piece : Piece}
    (h : scanReference text = .ok (piece, rest)) : rest.length < text.length := by
  simp only [scanReference, bind_eq_ok_iff, Prod.exists] at h
  obtain ⟨p, r, hb, r', he, h⟩ := h
  cases h
  have := length_le_of_scanBody hb
  have := length_lt_of_expect (by simp) he
  omega

/-- All pieces of a text. -/
def scanAll : List Char → Except Fault (List Piece)
  | [] => .ok []
  | c :: rest =>
    if c = '&' then
      match h : scanReference rest with
      | .error fault => .error fault
      | .ok (piece, rest) => do
        have := length_lt_of_scanReference h
        return piece :: (← scanAll rest)
    else do return .plain c :: (← scanAll rest)
termination_by text => text.length

end Piece

end CollectionProfile.Markup
