import GatedResolver.Text.Hex

/-!
# Receipt ids

An id is 128 random bits in the text form of a version 4 UUID. Four bits hold the version
and two the variant; the other 122 are random.
-/

namespace GatedResolver.Receipt

/-- The random bits of an id. -/
abbrev Entropy := Vector UInt8 16

/-- The bytes of an id: random, except for the version and the variant. -/
def idBytes (entropy : Entropy) : Bytes :=
  let versioned := entropy.set 6 ((entropy[6] &&& 0x0F) ||| 0x40)
  (versioned.set 8 ((entropy[8] &&& 0x3F) ||| 0x80)).toList

/-- The id for random bits: groups of 8, 4, 4, 4 and 12 hexadecimal digits. -/
def idOf (entropy : Entropy) : String :=
  let digits := Text.hexDigits (idBytes entropy)
  let group (first count : Nat) : List Char := (digits.drop first).take count
  String.ofList (group 0 8 ++ '-' :: group 8 4 ++ '-' :: group 12 4 ++ '-' :: group 16 4 ++
    '-' :: group 20 12)

end GatedResolver.Receipt
