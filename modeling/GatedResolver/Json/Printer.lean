import GatedResolver.Json.FloatText
import GatedResolver.Json.Value
import GatedResolver.Text.Bytes
import GatedResolver.Text.Hex

/-!
# Writing JSON

There are two layouts. The compact one has no white space at all. The indented one puts
each item and each member on a line of its own, two spaces deeper than its container, and
a space after each colon; an empty container stays on one line.

Every writer puts its text in front of what is written already, with the latest byte
first, so that a document of any length is written in one pass.
-/

namespace GatedResolver.Json

open Text (byte utf8)

/-- The text of a number. -/
def Number.text : Number → String
  | .integer value _ => Text.decimalInt value
  | .float value _ => floatText value

/-- How one byte of a string is written between the quotes. Bytes of characters beyond
ASCII stand for themselves. -/
def escapeByte (octet : UInt8) : Bytes :=
  if octet == 0x22 then [0x5C, 0x22]
  else if octet == 0x5C then [0x5C, 0x5C]
  else if octet < 0x20 then
    if octet == 0x08 then [0x5C, 0x62]
    else if octet == 0x0C then [0x5C, 0x66]
    else if octet == 0x0A then [0x5C, 0x6E]
    else if octet == 0x0D then [0x5C, 0x72]
    else if octet == 0x09 then [0x5C, 0x74]
    else
      [0x5C, 0x75, 0x30, 0x30, byte (Text.hexDigit (octet.toNat / 16)),
        byte (Text.hexDigit (octet.toNat % 16))]
  else [octet]

/-- Put bytes behind what is written already. -/
def writeBytes (written bytes : Bytes) : Bytes :=
  bytes.reverseAux written

/-- Write a string with its quotes. -/
def writeString (written : Bytes) (text : String) : Bytes :=
  0x22 :: writeBytes (0x22 :: written) ((utf8 text).flatMap escapeByte)

/-- Write a value that is not a container. -/
def writeScalar (written : Bytes) : Value → Bytes
  | .null => writeBytes written (utf8 "null")
  | .boolean true => writeBytes written (utf8 "true")
  | .boolean false => writeBytes written (utf8 "false")
  | .number value => writeBytes written (utf8 value.text)
  | .string value => writeString written value
  | .array _ | .object _ => written

mutual
/-- Write a value in the compact layout. -/
def writeCompact (written : Bytes) : Value → Bytes
  | .array items => byte ']' :: writeCompactItems true (byte '[' :: written) items
  | .object members => byte '\x7d' :: writeCompactMembers true (byte '\x7b' :: written) members
  | .null => writeScalar written .null
  | .boolean value => writeScalar written (.boolean value)
  | .number value => writeScalar written (.number value)
  | .string value => writeScalar written (.string value)

/-- Write items with commas between them; `first` says that none is written yet. -/
def writeCompactItems (first : Bool) (written : Bytes) : List Value → Bytes
  | [] => written
  | item :: rest =>
    let separated := if first then written else byte ',' :: written
    writeCompactItems false (writeCompact separated item) rest

/-- Write members with commas between them; `first` says that none is written yet. -/
def writeCompactMembers (first : Bool) (written : Bytes) : List (String × Value) → Bytes
  | [] => written
  | (key, value) :: rest =>
    let separated := if first then written else byte ',' :: written
    writeCompactMembers false (writeCompact (byte ':' :: writeString separated key) value)
      rest
end

/-- Start a new line that is indented to a depth. -/
def writeLineStart (depth : Nat) (written : Bytes) : Bytes :=
  List.replicate (2 * depth) (byte ' ') ++ byte '\n' :: written

mutual
/-- Write a value in the indented layout, inside of `depth` containers. -/
def writeIndented (depth : Nat) (written : Bytes) : Value → Bytes
  | .array [] => byte ']' :: byte '[' :: written
  | .array items =>
    byte ']' :: writeLineStart depth
      (writeIndentedItems (depth + 1) true (byte '[' :: written) items)
  | .object [] => byte '\x7d' :: byte '\x7b' :: written
  | .object members =>
    byte '\x7d' :: writeLineStart depth
      (writeIndentedMembers (depth + 1) true (byte '\x7b' :: written) members)
  | .null => writeScalar written .null
  | .boolean value => writeScalar written (.boolean value)
  | .number value => writeScalar written (.number value)
  | .string value => writeScalar written (.string value)

/-- Write items on lines of their own; `first` says that none is written yet. -/
def writeIndentedItems (depth : Nat) (first : Bool) (written : Bytes) : List Value → Bytes
  | [] => written
  | item :: rest =>
    let separated := if first then written else byte ',' :: written
    writeIndentedItems depth false (writeIndented depth (writeLineStart depth separated) item)
      rest

/-- Write members on lines of their own; `first` says that none is written yet. -/
def writeIndentedMembers (depth : Nat) (first : Bool) (written : Bytes) :
    List (String × Value) → Bytes
  | [] => written
  | (key, value) :: rest =>
    let separated := if first then written else byte ',' :: written
    let named := writeString (writeLineStart depth separated) key
    writeIndentedMembers depth false
      (writeIndented depth (byte ' ' :: byte ':' :: named) value) rest
end

/-- The compact text of a value. -/
def Value.compact (value : Value) : Bytes :=
  (writeCompact [] value).reverse

/-- The indented text of a value. -/
def Value.indented (value : Value) : Bytes :=
  (writeIndented 0 [] value).reverse

end GatedResolver.Json
