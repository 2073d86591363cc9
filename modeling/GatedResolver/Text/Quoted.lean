import GatedResolver.Text.Hex
import GatedResolver.Text.Quoted.Extending
import GatedResolver.Text.Quoted.Ignorable
import GatedResolver.Text.Quoted.Unprintable

/-!
# Quoted text in messages

A message shows a value it complains about between double quotes, so that a reader sees
where it starts and ends and what stands in it. A character that cannot be shown on its
own is written as its code point in hexadecimal digits.
-/

namespace GatedResolver.Text

/-- Whether a code point lies in one of some ascending ranges. -/
def inRanges (point : Nat) : List (Nat × Nat) → Bool
  | [] => false
  | (first, last) :: later => if last < point then inRanges point later else first ≤ point

/-- Characters that cannot be shown on their own. ASCII is decided without the tables. -/
def isUnshowable (character : Char) : Bool :=
  let point := character.toNat
  if point < 0x80 then point < 0x20 || point == 0x7F
  else
    inRanges point unprintableRanges || inRanges point extendingRanges ||
      inRanges point ignorableRanges

/-- How one character of a quoted text is written. -/
def quoteChar (character : Char) : List Char :=
  match character with
  | '\x00' => ['\\', '0']
  | '\t' => ['\\', 't']
  | '\n' => ['\\', 'n']
  | '\r' => ['\\', 'r']
  | '"' => ['\\', '"']
  | '\\' => ['\\', '\\']
  | other =>
    if isUnshowable other then
      '\\' :: 'u' :: '\x7b' :: (Nat.toDigits 16 other.toNat ++ ['\x7d'])
    else
      [other]

/-- A text between double quotes, with what cannot be shown written out. -/
def quoted (text : String) : String :=
  String.ofList ('"' :: (text.toList.flatMap quoteChar ++ ['"']))

end GatedResolver.Text
