import GatedResolver.Binary64.Basic
import GatedResolver.Text.Decimal

/-!
# The shortest decimal text of a number

A decimal *reads back* as a number when it lies among the reals that round to that number.
The text of a number has the fewest digits that read back, and of several such decimals
the nearest to the number. Which of two equally near ones is taken and how the digits are
laid out, with or without an exponent, are choices of each format that writes numbers.
-/

namespace GatedResolver.Binary64

/-- Four times the magnitude in smallest positive numbers, so that the middle between two
neighbouring numbers is an integer as well. -/
def quarterUnits (number : Binary64) : Nat :=
  4 * number.units

/-- Half of the distance to the next greater magnitude, in quarter units. -/
def roomAbove (number : Binary64) : Nat :=
  2 * Nat.pow 2 number.scale

/-- Half of the distance to the next smaller magnitude, in quarter units. It is half as
large where the exponent changes. -/
def roomBelow (number : Binary64) : Nat :=
  if number.scale ≠ 0 ∧ number.significand = exponentWeight then Nat.pow 2 number.scale
  else 2 * Nat.pow 2 number.scale

/-- A power of ten by which every finite number can be multiplied so that all decimals of
seventeen digits near it become integers. -/
def decimalShift : Nat := 350

/-- The denominator of the reals that decimals are compared as. -/
def quarterUnitsPerOne : Nat := 4 * unitsPerOne

/-- Whether the decimal `digits * 10 ^ (place - decimalShift)` reads back as a number. A
real in the middle between two numbers rounds to the one with an even significand. -/
def readsBack (number : Binary64) (digits place : Nat) : Bool :=
  let decimal := digits * (quarterUnitsPerOne * Nat.pow 10 place)
  let low := (number.quarterUnits - number.roomBelow) * Nat.pow 10 decimalShift
  let high := (number.quarterUnits + number.roomAbove) * Nat.pow 10 decimalShift
  if number.magnitudeBits % 2 = 0 then low ≤ decimal && decimal ≤ high
  else low < decimal && decimal < high

/-- A positive decimal: an integer and the power of ten that it is multiplied by. -/
structure Decimal where
  digits : Nat
  exponent : Int
deriving DecidableEq

/-- The decimal digits of a number as a list of characters. -/
def digitList (value : Nat) : List Char :=
  Nat.toDigits 10 value

/-- The place, counted from `10 ^ (-decimalShift)`, just above the leading digit. -/
def leadingPlace (number : Binary64) : Nat :=
  (digitList (number.quarterUnits * Nat.pow 10 decimalShift / quarterUnitsPerOne)).length

/-- The best decimal on the grid with steps of `10 ^ (place - decimalShift)`: of the two
grid points around the number the one that reads back, and the nearer one if both do. -/
def onGrid? (tie : Tie) (number : Binary64) (place : Nat) : Option Nat :=
  let step := quarterUnitsPerOne * Nat.pow 10 place
  let value := number.quarterUnits * Nat.pow 10 decimalShift
  let below := value / step
  match number.readsBack below place, number.readsBack (below + 1) place with
  | true, true => some (roundQuotient tie value step)
  | true, false => some below
  | false, true => some (below + 1)
  | false, false => none

/-- Take trailing zeros from the digits of a decimal into its exponent. -/
def Decimal.withoutZeros : Nat → Decimal → Decimal
  | 0, decimal => decimal
  | fuel + 1, decimal =>
    if decimal.digits ≠ 0 ∧ decimal.digits % 10 = 0 then
      Decimal.withoutZeros fuel ⟨decimal.digits / 10, decimal.exponent + 1⟩
    else
      decimal

/-- Try grids with more and more digits, `count` of them left, and stop at the first that
has a decimal that reads back. Seventeen digits always suffice. -/
def searchGrids (tie : Tie) (number : Binary64) (leading : Nat) : (used count : Nat) → Decimal
  | used, 0 =>
    let place := leading - used
    ⟨roundQuotient tie (number.quarterUnits * Nat.pow 10 decimalShift)
      (quarterUnitsPerOne * Nat.pow 10 place), (place : Int) - decimalShift⟩
  | used, count + 1 =>
    let place := leading - used
    match onGrid? tie number place with
    | some digits => ⟨digits, (place : Int) - decimalShift⟩
    | none => searchGrids tie number leading (used + 1) count

/-- The shortest decimal that reads back as a finite number other than zero. -/
def shortest (tie : Tie) (number : Binary64) : Decimal :=
  (searchGrids tie number number.leadingPlace 1 17).withoutZeros 20

/-- How a format writes numbers: which decimal exponents of the leading digit are written
without an exponent, and which of two equally near decimals is taken. -/
structure DecimalLayout where
  positional : Int → Bool
  tie : Tie

/-- Digits with a decimal point after the one of weight `10 ^ 0`, and a zero where one side
of the point would be empty. -/
def positionalDigits (decimal : Decimal) : List Char :=
  let digits := digitList decimal.digits
  if 0 ≤ decimal.exponent then
    digits ++ List.replicate decimal.exponent.toNat '0' ++ ['.', '0']
  else
    let places := decimal.exponent.natAbs
    if places < digits.length then
      digits.take (digits.length - places) ++ '.' :: digits.drop (digits.length - places)
    else
      '0' :: '.' :: (List.replicate (places - digits.length) '0' ++ digits)

/-- One digit before the point, the others after it, and a signed exponent. -/
def exponentDigits (decimal : Decimal) (leading : Int) : List Char :=
  let digits := digitList decimal.digits
  let fraction := digits.drop 1
  let mark := if leading < 0 then ['e', '-'] else ['e', '+']
  digits.take 1 ++ (if fraction.isEmpty then [] else '.' :: fraction) ++ mark ++
    digitList leading.natAbs

/-- The digits of a decimal in a layout. -/
def DecimalLayout.digits (layout : DecimalLayout) (decimal : Decimal) : List Char :=
  let leading := decimal.exponent + (digitList decimal.digits).length - 1
  if layout.positional leading then positionalDigits decimal
  else exponentDigits decimal leading

/-- The text of a number in a layout. Zero has one digit on each side of the point. -/
def textIn (layout : DecimalLayout) (number : Binary64) : List Char :=
  if number.isNaN then "NaN".toList
  else
    let sign := if number.isNegative then ['-'] else []
    if !number.isFinite then sign ++ "inf".toList
    else if number.isZero then sign ++ "0.0".toList
    else sign ++ layout.digits (shortest layout.tie number)

end GatedResolver.Binary64
