import GatedResolver.Text.Split
import GatedResolver.Toml.Node

/-!
# Unquoted scalars

Numbers, truth values and dates are written without quotes. Digits may be grouped by
single underscores.
-/

namespace GatedResolver.Toml

/-- The value of a digit in a base, if it is one. -/
def digitIn? (base : Nat) (character : Char) : Option Nat :=
  let point := character.toNat
  let value :=
    if 48 ≤ point ∧ point ≤ 57 then some (point - 48)
    else if 97 ≤ point ∧ point ≤ 102 then some (point - 87)
    else if 65 ≤ point ∧ point ≤ 70 then some (point - 55)
    else none
  match value with
  | some digit => if digit < base then some digit else none
  | none => none

/-- The number that digits spell, where each underscore stands between two digits;
`afterDigit` says whether a digit came last. -/
def groupedOnto (base : Nat) (value : Nat) (afterDigit : Bool) : List Char → Option Nat
  | [] => if afterDigit then some value else none
  | character :: rest =>
    if character = '_' then
      if afterDigit then groupedOnto base value false rest else none
    else
      match digitIn? base character with
      | some digit => groupedOnto base (base * value + digit) true rest
      | none => none

/-- The number that grouped digits spell. -/
def grouped? (base : Nat) (digits : List Char) : Option Nat :=
  groupedOnto base 0 false digits

/-- A sign in front of a number, and what follows it. -/
def takeSign : List Char → Bool × Bool × List Char
  | '+' :: rest => (true, false, rest)
  | '-' :: rest => (true, true, rest)
  | rest => (false, false, rest)

/-- Whether decimal digits start with a zero that does not stand alone. -/
def hasLeadingZero : List Char → Bool
  | '0' :: _ :: _ => true
  | _ => false

/-- Read an integer. Numbers in base ten may have a sign and no leading zeros. -/
def integer? (text : List Char) : Option Int :=
  match text with
  | '0' :: 'x' :: digits => (grouped? 16 digits).map Int.ofNat
  | '0' :: 'o' :: digits => (grouped? 8 digits).map Int.ofNat
  | '0' :: 'b' :: digits => (grouped? 2 digits).map Int.ofNat
  | _ =>
    let (_, negative, digits) := takeSign text
    if hasLeadingZero digits then none
    else (grouped? 10 digits).map fun value => if negative then -(value : Int) else value

/-- Digits without the underscores between them. -/
def ungrouped (digits : List Char) : List Char :=
  digits.filter (· ≠ '_')

/-- The number nearest to `digits * 10 ^ exponent`, unless it is infinite. -/
def nearest? (negative : Bool) (digits : Nat) (exponent : Int) : Option Binary64 :=
  let length := (Nat.toDigits 10 digits).length
  if digits = 0 then some (.zero negative)
  else if 400 < exponent + length then none
  else if exponent + length < -400 then some (.zero negative)
  else
    let value :=
      if exponent < 0 then Binary64.ofRatio negative digits (Nat.pow 10 exponent.natAbs)
      else Binary64.ofRatio negative (digits * Nat.pow 10 exponent.natAbs) 1
    if value.isFinite then some value else none

/-- Read a floating point number: digits, and behind them a fraction or an exponent or
both. The inner result is none if the number is too large. -/
def float? (text : List Char) : Option (Option Binary64) := do
  let (_, negative, unsigned) := takeSign text
  if unsigned = "inf".toList then return some (.infinity negative)
  if unsigned = "nan".toList then
    return some (if negative then Binary64.nan.neg else Binary64.nan)
  let isMark (character : Char) : Bool := character = 'e' || character = 'E'
  let mantissa := unsigned.takeWhile fun character => !isMark character
  let whole := mantissa.takeWhile (· ≠ '.')
  let fraction := (mantissa.dropWhile (· ≠ '.')).drop 1
  if mantissa.length = unsigned.length ∧ whole.length = mantissa.length then none
  if hasLeadingZero whole then none
  let _ ← grouped? 10 whole
  if whole.length < mantissa.length then
    let _ ← grouped? 10 fraction
  let places := ungrouped fraction
  let digits ← grouped? 10 (ungrouped whole ++ places)
  if mantissa.length = unsigned.length then
    return nearest? negative digits (-(places.length : Int))
  let (_, negativeExponent, exponentDigits) := takeSign (unsigned.drop (mantissa.length + 1))
  let exponent ← grouped? 10 exponentDigits
  let signed : Int := if negativeExponent then -(exponent : Int) else exponent
  return nearest? negative digits (signed - places.length)

/-- A number of exactly so many decimal digits. -/
def fixedDigits? (count : Nat) (text : List Char) : Option Nat :=
  if text.length = count ∧ text.all Char.isDigit then grouped? 10 text else none

/-- Whether a year has a 29th of February. -/
def isLeapYear (year : Nat) : Bool :=
  year % 4 = 0 && (year % 100 ≠ 0 || year % 400 = 0)

/-- How many days a month has. -/
def daysIn (year month : Nat) : Nat :=
  if month = 2 then (if isLeapYear year then 29 else 28)
  else if month = 4 ∨ month = 6 ∨ month = 9 ∨ month = 11 then 30
  else 31

/-- Whether a text is a date: year, month and day. -/
def isDate (text : List Char) : Bool :=
  match (Text.split '-' text) with
  | [yearText, monthText, dayText] =>
    match fixedDigits? 4 yearText, fixedDigits? 2 monthText, fixedDigits? 2 dayText with
    | some year, some month, some day =>
      1 ≤ month && month ≤ 12 && 1 ≤ day && day ≤ daysIn year month
    | _, _, _ => false
  | _ => false

/-- Whether a text is a number of two digits up to a limit. -/
def isClockPart (limit : Nat) (text : List Char) : Bool :=
  match fixedDigits? 2 text with
  | some value => value ≤ limit
  | none => false

/-- Whether a text is a time of day: hour and minute, and seconds with or without a
fraction. -/
def isTime (text : List Char) : Bool :=
  match Text.split ':' text with
  | [hour, minute] => isClockPart 23 hour && isClockPart 59 minute
  | [hour, minute, second] =>
    let whole := second.takeWhile (· ≠ '.')
    let fraction := second.dropWhile (· ≠ '.')
    isClockPart 23 hour && isClockPart 59 minute && isClockPart 60 whole &&
      (fraction.isEmpty || (2 ≤ fraction.length && (fraction.drop 1).all Char.isDigit))
  | _ => false

/-- Whether a text is a time of day with an offset from UTC. -/
def isOffsetTime (text : List Char) : Bool :=
  match text.reverse with
  | 'Z' :: time => isTime time.reverse
  | 'z' :: time => isTime time.reverse
  | lastMinute :: firstMinute :: ':' :: lastHour :: firstHour :: sign :: time =>
    (sign = '+' || sign = '-') && isClockPart 23 [firstHour, lastHour] &&
      isClockPart 59 [firstMinute, lastMinute] && isTime time.reverse
  | _ => false

/-- Whether a text is a date, a time, or a date with a time. -/
def isDateTime (text : List Char) : Bool :=
  let date := text.take 10
  isTime text || isDate text ||
    (isDate date &&
      match text.drop 10 with
      | separator :: time =>
        (separator = 'T' || separator = 't' || separator = ' ') &&
          (isTime time || isOffsetTime time)
      | [] => false)

/-- Read an unquoted scalar. -/
def scalar? (text : List Char) : Option Node :=
  if text = "true".toList then some (.boolean true)
  else if text = "false".toList then some (.boolean false)
  else
    match integer? text with
    | some value => some (.integer value)
    | none =>
      match float? text with
      | some value => some (.float value)
      | none => if isDateTime text then some .dateTime else none

end GatedResolver.Toml
