import GatedResolver.Text.Bytes

/-!
# Hexadecimal digits

Bytes are written as two lower-case digits each. Reading takes digits of either case and
refuses an odd count of them.
-/

namespace GatedResolver.Text

/-- The lower-case digit of a number below sixteen. -/
def hexDigit (value : Nat) : Char :=
  if value < 10 then Char.ofNat (48 + value) else Char.ofNat (87 + value)

/-- The number that a hexadecimal digit of either case stands for. -/
def hexValue? (octet : UInt8) : Option Nat :=
  if 0x30 ≤ octet && octet ≤ 0x39 then some (octet.toNat - 0x30)
  else if 0x61 ≤ octet && octet ≤ 0x66 then some (octet.toNat - 0x57)
  else if 0x41 ≤ octet && octet ≤ 0x46 then some (octet.toNat - 0x37)
  else none

/-- Two lower-case digits for each byte. -/
def hexDigits (bytes : Bytes) : List Char :=
  bytes.flatMap fun octet => [hexDigit (octet.toNat / 16), hexDigit (octet.toNat % 16)]

/-- The hexadecimal text of a byte string. -/
def hex (bytes : Bytes) : String :=
  String.ofList (hexDigits bytes)

/-- Read pairs of hexadecimal digits, on top of the bytes read so far with the latest
first. -/
def readHexOnto (read : Bytes) : Bytes → Option Bytes
  | [] => some read.reverse
  | [_] => none
  | high :: low :: rest =>
    match hexValue? high, hexValue? low with
    | some highValue, some lowValue =>
      readHexOnto (UInt8.ofNat (16 * highValue + lowValue) :: read) rest
    | _, _ => none

/-- The bytes that a hexadecimal text stands for. -/
def readHex? (text : String) : Option Bytes :=
  readHexOnto [] (utf8 text)

/-- The digits of a number in base sixteen, with zeros in front up to a width. -/
def hexPadded (width value : Nat) : String :=
  String.ofList ((Nat.toDigits 16 value).leftpad width '0')

/-- The digit of a number below sixteen stands for that number. -/
theorem hexValue?_byte_hexDigit {value : Nat} (small : value < 16) :
    hexValue? (byte (hexDigit value)) = some value := by
  have all : ∀ digit : Fin 16, hexValue? (byte (hexDigit digit)) = some digit.val := by decide
  exact all ⟨value, small⟩

/-- A digit is one byte of UTF-8. -/
theorem utf8EncodeChar_hexDigit {value : Nat} (small : value < 16) :
    String.utf8EncodeChar (hexDigit value) = [byte (hexDigit value)] := by
  have all : ∀ digit : Fin 16,
      String.utf8EncodeChar (hexDigit digit) = [byte (hexDigit digit)] := by decide
  exact all ⟨value, small⟩

/-- Bytes that were read before stay in front of those that are read. -/
theorem readHexOnto_append (read before digits : Bytes) :
    readHexOnto (read ++ before) digits =
      (readHexOnto read digits).map (before.reverse ++ ·) := by
  fun_induction readHexOnto read digits with
  | case1 read => simp [readHexOnto]
  | case2 read => simp [readHexOnto]
  | case3 read high low rest highValue lowValue highReads lowReads inductionHypothesis =>
    simp only [readHexOnto, highReads, lowReads]
    exact inductionHypothesis
  | case4 read high low rest unreadable => simp_all [readHexOnto]

/-- The digits of bytes are read as those bytes. -/
@[simp] theorem readHex?_hex (bytes : Bytes) : readHex? (hex bytes) = some bytes := by
  unfold readHex? hex utf8
  rw [String.toList_ofList]
  induction bytes with
  | nil => rfl
  | cons octet rest inductionHypothesis =>
    have bound := octet.toNat_lt
    have high : octet.toNat / 16 < 16 := by omega
    have low : octet.toNat % 16 < 16 := by omega
    have digits : hexDigits (octet :: rest) =
        hexDigit (octet.toNat / 16) :: hexDigit (octet.toNat % 16) :: hexDigits rest := rfl
    have whole : UInt8.ofNat (16 * (octet.toNat / 16) + octet.toNat % 16) = octet := by
      rw [Nat.div_add_mod]
      simp
    rw [digits, List.flatMap_cons, List.flatMap_cons, utf8EncodeChar_hexDigit high,
      utf8EncodeChar_hexDigit low]
    simp only [List.cons_append, List.nil_append, readHexOnto, hexValue?_byte_hexDigit high,
      hexValue?_byte_hexDigit low, whole]
    rw [show [octet] = [] ++ [octet] from rfl, readHexOnto_append, inductionHypothesis]
    rfl

end GatedResolver.Text
