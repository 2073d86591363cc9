import GatedResolver.Text.Bytes

/-!
# Reading UTF-8

Bytes are cut into characters and *damaged pieces*. A damaged piece is the longest
beginning of a well-formed character that the next byte does not continue, or a single
byte that begins no character. A strict reading refuses damage; a lenient reading puts
U+FFFD in the place of each damaged piece.
-/

namespace GatedResolver.Text

/-- A byte that may stand at the third or fourth place of a character. -/
def isContinuation (octet : UInt8) : Bool :=
  0x80 ≤ octet && octet ≤ 0xBF

/-- Which second bytes a leading byte admits. The narrower ranges keep out overlong
forms, surrogates and points above U+10FFFF. -/
def admitsSecond (lead second : UInt8) : Bool :=
  let lowest := if lead == 0xE0 then 0xA0 else if lead == 0xF0 then 0x90 else 0x80
  let highest := if lead == 0xED then 0x9F else if lead == 0xF4 then 0x8F else 0xBF
  lowest ≤ second && second ≤ highest

/-- The six payload bits of a continuation byte. -/
def payloadBits (octet : UInt8) : Nat :=
  octet.toNat % 64

/-- The characters and damaged pieces of a byte string, in order, on top of those found
so far with the latest first. A damaged piece is `none`. -/
def scanUtf8 (found : List (Option Char)) : Bytes → List (Option Char)
  | [] => found.reverse
  | lead :: rest =>
    if lead < 0x80 then
      scanUtf8 (some (Char.ofNat lead.toNat) :: found) rest
    else if lead < 0xC2 || 0xF4 < lead then
      scanUtf8 (none :: found) rest
    else
      match rest with
      | [] => (none :: found).reverse
      | second :: afterSecond =>
        if !admitsSecond lead second then
          scanUtf8 (none :: found) (second :: afterSecond)
        else if lead < 0xE0 then
          let point := lead.toNat % 32 * 64 + payloadBits second
          scanUtf8 (some (Char.ofNat point) :: found) afterSecond
        else
          match afterSecond with
          | [] => (none :: found).reverse
          | third :: afterThird =>
            if !isContinuation third then
              scanUtf8 (none :: found) (third :: afterThird)
            else if lead < 0xF0 then
              let point :=
                lead.toNat % 16 * 4096 + payloadBits second * 64 + payloadBits third
              scanUtf8 (some (Char.ofNat point) :: found) afterThird
            else
              match afterThird with
              | [] => (none :: found).reverse
              | fourth :: afterFourth =>
                if !isContinuation fourth then
                  scanUtf8 (none :: found) (fourth :: afterFourth)
                else
                  let point :=
                    lead.toNat % 8 * 262144 + payloadBits second * 4096 +
                      payloadBits third * 64 + payloadBits fourth
                  scanUtf8 (some (Char.ofNat point) :: found) afterFourth

/-- The text that the bytes spell, if no piece of them is damaged. -/
def decodeUtf8? (bytes : Bytes) : Option String :=
  let pieces := scanUtf8 [] bytes
  if pieces.all Option.isSome then
    some (String.ofList (pieces.filterMap id))
  else
    none

/-- The text that the bytes spell, with U+FFFD for each damaged piece. -/
def decodeUtf8Lossy (bytes : Bytes) : String :=
  String.ofList ((scanUtf8 [] bytes).map fun piece => piece.getD '\uFFFD')

end GatedResolver.Text
