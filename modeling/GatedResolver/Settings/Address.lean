import GatedResolver.Text.Decimal
import GatedResolver.Text.Hex
import GatedResolver.Text.Split

/-!
# Addresses to listen on

A service listens on a numeric address: four decimal numbers between dots, or eight groups
of hexadecimal digits between colons and in brackets, where one run of zero groups may be
left out and the last two groups may be written with dots. Names are no addresses.
-/

namespace GatedResolver.Address

/-- Whether characters are a decimal number below a limit, without leading zeros. -/
def isNumberBelow (limit : Nat) (characters : List Char) : Bool :=
  !characters.isEmpty && characters.all Char.isDigit &&
    (characters.length = 1 || characters.head? ≠ some '0') &&
    decide (Text.digitsValue characters < limit)

/-- Whether characters are an address of four numbers. -/
def isDotted (characters : List Char) : Bool :=
  let parts := Text.split '.' characters
  parts.length = 4 && parts.all (isNumberBelow 256)

/-- Whether characters are one group of hexadecimal digits. -/
def isGroup (characters : List Char) : Bool :=
  !characters.isEmpty && decide (characters.length ≤ 4) &&
    characters.all fun character =>
      character.isDigit || ('a' ≤ character && character ≤ 'f') ||
        ('A' ≤ character && character ≤ 'F')

/-- How many groups some parts stand for, where the last one may be written with dots. -/
def groupCount? (dottedEnd : Bool) : List (List Char) → Option Nat
  | [] => some 0
  | [last] =>
    if isGroup last then some 1 else if dottedEnd && isDotted last then some 2 else none
  | part :: rest => if isGroup part then (groupCount? dottedEnd rest).map (· + 1) else none

/-- How many groups characters stand for, which may be empty. -/
def groupsIn? (dottedEnd : Bool) (characters : List Char) : Option Nat :=
  if characters.isEmpty then some 0 else groupCount? dottedEnd (Text.split ':' characters)

/-- Cut characters at the first two colons in a row. -/
def cutAtGap? : List Char → Option (List Char × List Char)
  | ':' :: ':' :: rest => some ([], rest)
  | character :: rest => (cutAtGap? rest).map fun (before, behind) => (character :: before, behind)
  | [] => none

/-- Whether characters are an address of eight groups. -/
def isGrouped (characters : List Char) : Bool :=
  match cutAtGap? characters with
  | none => groupCount? true (Text.split ':' characters) == some 8
  | some (before, behind) =>
    match groupsIn? false before, groupsIn? true behind with
    | some first, some last => decide (first + last ≤ 7)
    | _, _ => false

/-- Whether characters are an address of eight groups with an optional zone behind it. -/
def isZoned (characters : List Char) : Bool :=
  let address := characters.takeWhile (· ≠ '%')
  let zone := (characters.dropWhile (· ≠ '%')).drop 1
  isGrouped address &&
    (address.length = characters.length ||
      (!zone.isEmpty && zone.all Char.isDigit && decide (Text.digitsValue zone < 4294967296)))

/-- Whether a text can be listened on once a colon and a number are put behind it. -/
def isListenable (host : String) : Bool :=
  match host.toList with
  | '[' :: rest => rest.getLast? == some ']' && isZoned rest.dropLast
  | characters => isDotted characters

end GatedResolver.Address
