/-!
# Binary floating point numbers of 64 bits

A number is its bit pattern: one sign bit, eleven exponent bits and 52 fraction bits.
Arithmetic is exact on natural numbers first and rounds once, to the nearest number that
the format has and to an even fraction where two are equally near.
-/

namespace GatedResolver

/-- A number in the 64-bit binary floating point format, as its bit pattern. -/
structure Binary64 where
  bits : UInt64
deriving DecidableEq

namespace Binary64

/-- The weight of the sign bit. -/
def signWeight : Nat := 9223372036854775808

/-- The weight of the lowest exponent bit. -/
def exponentWeight : Nat := 4503599627370496

/-- The bit pattern of positive infinity, above those of all finite magnitudes. -/
def infinityBits : Nat := 2047 * exponentWeight

/-- Whether the sign bit is set. -/
def isNegative (number : Binary64) : Bool :=
  signWeight ≤ number.bits.toNat

/-- The bit pattern without its sign. -/
def magnitudeBits (number : Binary64) : Nat :=
  number.bits.toNat % signWeight

/-- Neither an infinity nor a NaN. -/
def isFinite (number : Binary64) : Bool :=
  number.magnitudeBits < infinityBits

/-- Not a number. -/
def isNaN (number : Binary64) : Bool :=
  infinityBits < number.magnitudeBits

/-- One of the two zeros. -/
def isZero (number : Binary64) : Bool :=
  number.magnitudeBits == 0

/-- The number with given magnitude bits and sign. -/
def ofMagnitude (negative : Bool) (magnitude : Nat) : Binary64 :=
  ⟨UInt64.ofNat (if negative then signWeight + magnitude else magnitude)⟩

/-- The zero of a sign. -/
def zero (negative : Bool) : Binary64 :=
  ofMagnitude negative 0

/-- The infinity of a sign. -/
def infinity (negative : Bool) : Binary64 :=
  ofMagnitude negative infinityBits

/-- The quiet NaN without payload. -/
def nan : Binary64 :=
  ofMagnitude false (infinityBits + exponentWeight / 2)

/-- The step of a finite magnitude: the power of two, above `2 ^ (-1074)`, by which its
significand is scaled. -/
def scale (number : Binary64) : Nat :=
  number.magnitudeBits / exponentWeight - 1

/-- The integer significand of a finite number: its magnitude is
`significand * 2 ^ scale * 2 ^ (-1074)`. -/
def significand (number : Binary64) : Nat :=
  number.magnitudeBits - number.scale * exponentWeight

/-- The magnitude of a finite number in units of `2 ^ (-1074)`, the smallest positive
number. -/
def units (number : Binary64) : Nat :=
  number.significand * Nat.pow 2 number.scale

/-- How many of the smallest positive numbers make one. -/
def unitsPerOne : Nat := Nat.pow 2 1074

/-- Which of two equally near integers a quotient is rounded to. -/
inductive Tie where
  /-- To the even one. -/
  | toEven
  /-- To the greater one. -/
  | up
deriving DecidableEq

/-- A quotient rounded to the nearest integer. -/
def roundQuotient (tie : Tie) (numerator denominator : Nat) : Nat :=
  let quotient := numerator / denominator
  let twiceRest := 2 * (numerator % denominator)
  if twiceRest < denominator then quotient
  else if denominator < twiceRest then quotient + 1
  else if tie = .toEven ∧ quotient % 2 = 0 then quotient
  else quotient + 1

/-- The binary digits of a number: the least count `n` with `value < 2 ^ n`. -/
def bitLength (value : Nat) : Nat :=
  if value = 0 then 0 else value.log2 + 1

/-- The magnitude bits nearest to `numerator / denominator`, infinity where that is the
nearest. The scale is the least one that leaves at most 53 binary digits; a carry out of
the significand moves into the exponent by itself, because the two are adjacent. -/
def magnitudeOfRatio (numerator denominator : Nat) : Nat :=
  let scaled := numerator * unitsPerOne
  let scale := bitLength (scaled / denominator) - 53
  let rounded := roundQuotient .toEven scaled (denominator * Nat.pow 2 scale)
  min (scale * exponentWeight + rounded) infinityBits

/-- The number nearest to a quotient of natural numbers, with a sign. -/
def ofRatio (negative : Bool) (numerator denominator : Nat) : Binary64 :=
  ofMagnitude negative (magnitudeOfRatio numerator denominator)

/-- The number nearest to a natural number. -/
def ofNat (value : Nat) : Binary64 :=
  ofRatio false value 1

/-- The number nearest to a power of ten. -/
def powerOfTen (exponent : Nat) : Binary64 :=
  ofNat (Nat.pow 10 exponent)

/-- The product of two finite numbers. -/
def mul (left right : Binary64) : Binary64 :=
  ofRatio (left.isNegative != right.isNegative) (left.units * right.units)
    (unitsPerOne * unitsPerOne)

/-- The quotient of a finite number and a finite number other than zero. -/
def div (left right : Binary64) : Binary64 :=
  ofRatio (left.isNegative != right.isNegative) left.units right.units

/-- The number with the opposite sign. -/
def neg (number : Binary64) : Binary64 :=
  ofMagnitude (!number.isNegative) number.magnitudeBits

end Binary64

end GatedResolver
