import GatedResolver.Http.Percent
import GatedResolver.Text.Split
import GatedResolver.Text.Utf8

/-!
# Form encoding

A query string is a list of pairs between `&`, each of a key and a value with `=` between
them. A plus sign stands for a space, and bytes may be escaped. Bytes that are no UTF-8 are
read with replacement characters, so every text can be decoded.
-/

namespace GatedResolver.Http.Form

/-- The byte that a byte of an encoded text stands for, escapes aside. -/
def plusToSpace (octet : UInt8) : UInt8 :=
  if octet == 0x2B then 0x20 else octet

/-- The text that an encoded key or value stands for. -/
def decodeText (encoded : Bytes) : String :=
  Text.decodeUtf8Lossy (Percent.decode (encoded.map plusToSpace))

/-- Cut a part at its first `=`. Without one the value is empty. -/
def cutPair (part : Bytes) : Bytes × Bytes :=
  (part.takeWhile (· ≠ 0x3D), (part.dropWhile (· ≠ 0x3D)).drop 1)

/-- The pair that a part stands for. -/
def decodePair (part : Bytes) : String × String :=
  let (key, value) := cutPair part
  (decodeText key, decodeText value)

/-- The pairs of a query string. Empty parts are passed over. -/
def decode (query : String) : List (String × String) :=
  (((Text.split 0x26 (Text.utf8 query)).filter fun part => !part.isEmpty)).map decodePair

/-- The pairs of a query string with keys and values that are read in ways of their own. It fails
where one of them is not read. -/
def read {Fault Key Value : Type} (key : String → Except Fault Key)
    (value : String → Except Fault Value) (query : String) : Except Fault (List (Key × Value)) :=
  (decode query).mapM fun pair => do return (← key pair.1, ← value pair.2)

/-- Bytes that stand for themselves in an encoded text: letters, digits and four signs. -/
def isPlain (octet : UInt8) : Bool :=
  (0x30 ≤ octet && octet ≤ 0x39) || (0x41 ≤ octet && octet ≤ 0x5A) ||
    (0x61 ≤ octet && octet ≤ 0x7A) || octet == 0x2A || octet == 0x2D || octet == 0x2E ||
    octet == 0x5F

/-- How one byte is encoded. -/
def encodeByte (octet : UInt8) : List Char :=
  if isPlain octet then [Char.ofNat octet.toNat]
  else if octet == 0x20 then ['+']
  else Percent.escape octet

/-- The encoding of a key or a value. -/
def encodeText (text : String) : List Char :=
  (Text.utf8 text).flatMap encodeByte

/-- The encoding of a pair. -/
def encodePair (pair : String × String) : List Char :=
  encodeText pair.1 ++ '=' :: encodeText pair.2

/-- The query string of pairs. -/
def encode (pairs : List (String × String)) : String :=
  String.ofList (List.intercalate ['&'] (pairs.map encodePair))

end GatedResolver.Http.Form
