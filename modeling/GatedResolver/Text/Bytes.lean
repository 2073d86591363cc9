/-!
# Byte strings

Documents, request bodies, files and keys are lists of bytes, so that every function
on them is a recursion over a list.
-/

namespace GatedResolver

/-- A string of bytes. -/
abbrev Bytes := List UInt8

namespace Text

/-- The byte of an ASCII character. -/
def byte (character : Char) : UInt8 :=
  UInt8.ofNat character.toNat

/-- The characters of a text in UTF-8, one after the other. -/
def utf8 (text : String) : Bytes :=
  text.toList.flatMap String.utf8EncodeChar

end Text

end GatedResolver
