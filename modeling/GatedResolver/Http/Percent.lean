import GatedResolver.Text.Hex

/-!
# Percent escapes

`%` with two hexadecimal digits of either case stands for a byte. Any other `%` stands for
itself, so every byte string can be decoded.
-/

namespace GatedResolver.Http.Percent

/-- Decode escapes, on top of the bytes decoded so far with the latest first. -/
def decodeOnto (done : Bytes) : Bytes → Bytes
  | [] => done.reverse
  | octet :: rest =>
    if octet == 0x25 then
      match rest with
      | high :: low :: behind =>
        match Text.hexValue? high, Text.hexValue? low with
        | some highValue, some lowValue =>
          decodeOnto (UInt8.ofNat (16 * highValue + lowValue) :: done) behind
        | _, _ => decodeOnto (octet :: done) (high :: low :: behind)
      | short => decodeOnto (octet :: done) short
    else decodeOnto (octet :: done) rest

/-- The bytes that an escaped byte string stands for. -/
def decode (escaped : Bytes) : Bytes :=
  decodeOnto [] escaped

/-- The upper-case hexadecimal digit of a number below sixteen. -/
def upperHexDigit (value : Nat) : Char :=
  if value < 10 then Char.ofNat (48 + value) else Char.ofNat (55 + value)

/-- The escape of a byte. -/
def escape (octet : UInt8) : List Char :=
  ['%', upperHexDigit (octet.toNat / 16), upperHexDigit (octet.toNat % 16)]

end GatedResolver.Http.Percent
