import CollectionProfile.Text.Occurrence

/-!
# Written numbers
-/

namespace CollectionProfile.Text

/-- Whether a text is a run of digits, with at least one of them. -/
def isDigits (text : List Char) : Bool := !text.isEmpty && text.all Char.isDigit

/-- The text without a sign in front. -/
def withoutSign : List Char → List Char
  | '+' :: rest | '-' :: rest => rest
  | text => text

/-- The number that digits spell, with a plus sign in front or without one. -/
def unsigned? (text : List Char) : Option Nat :=
  let digits := (after? ['+'] text).getD text
  if isDigits digits then
    some (digits.foldl (fun value c => 10 * value + (c.toNat - '0'.toNat)) 0)
  else none

/-- Whether a text is a number without a sign and an exponent: digits with at most one point before,
among or after them. -/
def isMantissa (text : List Char) : Bool :=
  match cut? ['.'] text with
  | none => isDigits text
  | some (whole, fraction) =>
    whole.all Char.isDigit && fraction.all Char.isDigit && !(whole.isEmpty && fraction.isEmpty)

/-- Whether a text is the number that decimals can be, with an exponent or without one, or a name of
what is no finite number. -/
def isDecimal (text : List Char) : Bool :=
  let text := (withoutSign text).map Char.toLower
  ["inf", "infinity", "nan"].contains (String.ofList text) ||
    match cut? ['e'] text with
    | none => isMantissa text
    | some (mantissa, exponent) => isMantissa mantissa && isDigits (withoutSign exponent)

end CollectionProfile.Text
