import GatedResolver.Json.Fault
import GatedResolver.Json.Value
import GatedResolver.Text.Bytes

/-!
# The numbers of a document

A numeral is cut out of the text first and given a value afterwards. Numerals without a
point and an exponent are exact as long as they fit into 64 bits. All others are
approximated: as many leading digits as fit into an unsigned 64-bit word make an integer,
which is rounded to a floating point number and then multiplied or divided by powers of
ten, with a rounding after each step.
-/

namespace GatedResolver.Json

open Text (byte)

/-- Whether a byte is an ASCII digit. -/
def isDigit (octet : UInt8) : Bool :=
  0x30 ≤ octet && octet ≤ 0x39

/-- The value of an ASCII digit. -/
def digitValue (octet : UInt8) : Nat :=
  octet.toNat - 0x30

/-- The number that digits spell. -/
def digitsValue (digits : Bytes) : Nat :=
  digits.foldl (fun value digit => 10 * value + digitValue digit) 0

/-- The parts of a numeral: its sign, the digits before the point, those behind it and the
exponent with its sign. -/
structure Numeral where
  negative : Bool
  whole : Bytes
  fraction : Option Bytes
  exponent : Option (Bool × Bytes)

/-- A number that is cut out of a document. Where it breaks the grammar, the fault depends
on whether its value is wanted or not. -/
inductive NumeralScan where
  | complete (numeral : Numeral) (rest : Bytes)
  | broken (whenRead : Fault)

/-- The fault of a numeral that breaks off before a digit that it needs. -/
def missingDigit : Bytes → Fault
  | [] => .unfinished .value
  | _ :: _ => .invalidNumber

/-- Cut the exponent out of the text behind its mark `e`. -/
def scanExponent (negative : Bool) (whole : Bytes) (fraction : Option Bytes)
    (text : Bytes) : NumeralScan :=
  let (negativeExponent, digits) :=
    match text with
    | 0x2D :: rest => (true, rest)
    | 0x2B :: rest => (false, rest)
    | rest => (false, rest)
  if (digits.takeWhile isDigit).isEmpty then .broken (missingDigit digits)
  else
    .complete ⟨negative, whole, fraction, some (negativeExponent, digits.takeWhile isDigit)⟩
      (digits.dropWhile isDigit)

/-- Cut what follows the digits before the point. -/
def scanFraction (negative : Bool) (whole text : Bytes) : NumeralScan :=
  match text with
  | 0x2E :: digits =>
    let fraction := digits.takeWhile isDigit
    if fraction.isEmpty then .broken (missingDigit digits)
    else
      match digits.dropWhile isDigit with
      | 0x65 :: rest => scanExponent negative whole (some fraction) rest
      | 0x45 :: rest => scanExponent negative whole (some fraction) rest
      | rest => .complete ⟨negative, whole, some fraction, none⟩ rest
  | 0x65 :: rest => scanExponent negative whole none rest
  | 0x45 :: rest => scanExponent negative whole none rest
  | rest => .complete ⟨negative, whole, none, none⟩ rest

/-- Cut a numeral without its sign out of the front of a text. A zero that is followed by
another digit is no numeral. -/
def scanMagnitude (negative : Bool) (text : Bytes) : NumeralScan :=
  match text with
  | 0x30 :: rest =>
    match rest with
    | next :: _ =>
      if isDigit next then .broken .invalidNumber
      else scanFraction negative [0x30] rest
    | [] => scanFraction negative [0x30] rest
  | _ =>
    let whole := text.takeWhile isDigit
    if whole.isEmpty then .broken (missingDigit text)
    else scanFraction negative whole (text.dropWhile isDigit)

/-- Cut a numeral out of the front of a text that starts with a minus sign or a digit. -/
def scanNumeral : Bytes → NumeralScan
  | 0x2D :: rest => scanMagnitude true rest
  | text => scanMagnitude false text

/-- Append digits to an integer while it fits into an unsigned 64-bit word. The result is
the integer and the digits that are left. -/
def appendDigits (value : Nat) : Bytes → Nat × Bytes
  | [] => (value, [])
  | digit :: rest =>
    let longer := 10 * value + digitValue digit
    if longer < 18446744073709551616 then appendDigits longer rest
    else (value, digit :: rest)

/-- A floating point number as a JSON number, unless it is infinite. -/
def finiteNumber (value : Binary64) : Except Fault Number :=
  if finite : value.isFinite = true then .ok (.float value finite)
  else .error .numberOutOfRange

/-- An integer divided by a power of ten, in steps of at most `10 ^ 308`. After two such
steps nothing is left of an integer of 64 bits. -/
def divideByPower (value : Binary64) (exponent : Nat) : Binary64 :=
  if exponent ≤ 308 then value.div (.powerOfTen exponent)
  else if exponent ≤ 616 then
    (value.div (.powerOfTen 308)).div (.powerOfTen (exponent - 308))
  else .zero false

/-- The floating point number for `significand * 10 ^ exponent` with a sign. -/
def approximate (negative : Bool) (significand : Nat) (exponent : Int) :
    Except Fault Number :=
  let start := Binary64.ofNat significand
  let signed (magnitude : Binary64) : Except Fault Number :=
    finiteNumber (if negative then magnitude.neg else magnitude)
  if exponent < 0 then signed (divideByPower start exponent.natAbs)
  else if exponent ≤ 308 then signed (start.mul (.powerOfTen exponent.natAbs))
  else if significand = 0 then signed (.zero false)
  else .error .numberOutOfRange

/-- The greatest exponent that is looked at. -/
def exponentLimit : Nat := 2147483647

/-- The number that the digits of an exponent spell. Eleven digits without leading zeros
exceed the limit whatever follows them. -/
def exponentValue (digits : Bytes) : Nat :=
  digitsValue ((digits.dropWhile (· == 0x30)).take 11)

/-- The value of a numeral. -/
def Numeral.value (numeral : Numeral) : Except Fault Number :=
  let (significand, excess) := appendDigits 0 numeral.whole
  match numeral.fraction, numeral.exponent, excess with
  | none, none, [] =>
    if numeral.negative then
      if within : significand ≠ 0 ∧ significand ≤ 9223372036854775808 then
        .ok (.integer (-(significand : Int)) ⟨by simp only [leastInteger]; omega, by
          simp only [integerLimit]; omega⟩)
      else finiteNumber (Binary64.ofNat significand).neg
    else if within : significand < 18446744073709551616 then
      .ok (.integer significand ⟨by simp only [leastInteger]; omega, by
        simp only [integerLimit]; omega⟩)
    else .error .numberOutOfRange
  | fraction, exponent, _ =>
    let digits := fraction.getD []
    let (precise, unused) := appendDigits significand digits
    let shift : Int := (excess.length : Int) - ((digits.length - unused.length : Nat) : Int)
    match exponent with
    | none => approximate numeral.negative precise shift
    | some (negativeExponent, exponentDigits) =>
      let written := exponentValue exponentDigits
      if written ≤ exponentLimit then
        approximate numeral.negative precise
          (if negativeExponent then shift - written else shift + written)
      else if precise ≠ 0 ∧ !negativeExponent then .error .numberOutOfRange
      else approximate numeral.negative 0 0

end GatedResolver.Json
