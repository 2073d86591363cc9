import GatedResolver.Text.Blank

/-!
# Decimal numbers in text

Numbers are written without leading zeros. A number that a person typed may be
surrounded by blanks and start with a plus sign; its digits are ASCII.
-/

namespace GatedResolver.Text

/-- The number that ASCII digits spell, most significant digit first. -/
def digitsValue (digits : List Char) : Nat :=
  digits.foldl (fun value digit => 10 * value + (digit.toNat - 48)) 0

/-- The digits after an optional plus sign. -/
def dropPlus : List Char → List Char
  | '+' :: digits => digits
  | digits => digits

/-- Read an optional plus sign and one or more ASCII digits as a number below `limit`. -/
def readDecimal? (limit : Nat) (text : String) : Option Nat :=
  let digits := dropPlus text.toList
  if digits.isEmpty || !digits.all Char.isDigit then none
  else if digitsValue digits < limit then some (digitsValue digits)
  else none

/-- The decimal digits of a number. -/
def decimal (value : Nat) : String :=
  String.ofList (Nat.toDigits 10 value)

/-- The decimal digits of an integer, after a minus sign if it is negative. -/
def decimalInt (value : Int) : String :=
  if value < 0 then "-" ++ decimal value.natAbs else decimal value.natAbs

end GatedResolver.Text
