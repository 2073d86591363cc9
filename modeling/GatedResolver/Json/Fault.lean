import GatedResolver.Json.FloatText
import GatedResolver.Text.Decimal
import GatedResolver.Text.Quoted

/-!
# What can be wrong with a document

A document is at fault in its grammar (it is no JSON text), in its shape (a value of
another kind was wanted) or in its meaning (a rule of the wanted type refuses the value).
Each fault is a cause; its wording is one function of the cause.
-/

namespace GatedResolver.Json

/-- What was open when a document ended too early. -/
inductive Open where
  | value
  | string
  | list
  | object
deriving DecidableEq

/-- The kind of a value that a reader met, with the value itself if it is a scalar. -/
inductive Found where
  | null
  | boolean (value : Bool)
  | integer (value : Int)
  | float (value : Binary64)
  | string (value : String)
  | sequence
  | map
deriving DecidableEq

/-- What a reader wanted. -/
inductive Wanted where
  | text
  | boolean
  | sequence
  | word (name : String)
  | record (name : String)
  | recordItems (name : String) (count : Nat)
  | fewerItems
  | exactItems (count : Nat)
  | enclosedText
  | fewerMembers
  | exactMembers (count : Nat)
  | variant
  | singleMember
  | unit
deriving DecidableEq

/-- What is wrong with a document. -/
inductive Fault where
  | unfinished (part : Open)
  | expectedValue
  | expectedWord
  | expectedColon
  | expectedItemEnd
  | expectedMemberEnd
  | keyNotString
  | trailingComma
  | trailingCharacters
  | invalidNumber
  | numberOutOfRange
  | invalidEscape
  | invalidCharacter
  | controlCharacter
  | loneSurrogate
  | unfinishedSurrogatePair
  | tooDeep
  | wrongType (found : Found) (wanted : Wanted)
  | wrongValue (found : Found) (wanted : Wanted)
  | wrongLength (length : Nat) (wanted : Wanted)
  | unknownVariant (name : String) (known : List String)
  | missingField (name : String)
  | duplicateField (name : String)
  | refused (reason : String)
deriving DecidableEq

/-- The name of an open part. -/
def Open.describe : Open → String
  | .value => "a value"
  | .string => "a string"
  | .list => "a list"
  | .object => "an object"

/-- A found value in words, with the text of floating point numbers left to the caller. -/
def Found.describe (floatText : Binary64 → String) : Found → String
  | .null => "null"
  | .boolean true => "boolean `true`"
  | .boolean false => "boolean `false`"
  | .integer value => "integer `" ++ Text.decimalInt value ++ "`"
  | .float value => "floating point `" ++ floatText value ++ "`"
  | .string value => "string " ++ Text.quoted value
  | .sequence => "sequence"
  | .map => "map"

/-- A count of elements in words. -/
def elementCount (count : Nat) : String :=
  if count = 1 then "1 element" else Text.decimal count ++ " elements"

/-- A wanted value in words. -/
def Wanted.describe : Wanted → String
  | .text => "a string"
  | .boolean => "a boolean"
  | .sequence => "a sequence"
  | .word name => name
  | .record name => "struct " ++ name
  | .recordItems name count => "struct " ++ name ++ " with " ++ elementCount count
  | .fewerItems => "fewer elements in array"
  | .exactItems count => elementCount count ++ " in sequence"
  | .enclosedText => "raw value"
  | .fewerMembers => "fewer elements in map"
  | .exactMembers count => elementCount count ++ " in map"
  | .variant => "string or map"
  | .singleMember => "map with a single key"
  | .unit => "unit"

/-- Alternatives between backquotes, joined as in a sentence. -/
def alternatives : List String → String
  | [] => ""
  | [only] => "`" ++ only ++ "`"
  | [first, second] => "`" ++ first ++ "` or `" ++ second ++ "`"
  | first :: rest => "`" ++ first ++ "`, " ++ alternatives rest

/-- A fault in words, with the text of floating point numbers left to the caller. -/
def Fault.describe (floatText : Binary64 → String) : Fault → String
  | .unfinished part => "EOF while parsing " ++ part.describe
  | .expectedValue => "expected value"
  | .expectedWord => "expected ident"
  | .expectedColon => "expected `:`"
  | .expectedItemEnd => "expected `,` or `]`"
  | .expectedMemberEnd => "expected `,` or `\x7d`"
  | .keyNotString => "key must be a string"
  | .trailingComma => "trailing comma"
  | .trailingCharacters => "trailing characters"
  | .invalidNumber => "invalid number"
  | .numberOutOfRange => "number out of range"
  | .invalidEscape => "invalid escape"
  | .invalidCharacter => "invalid unicode code point"
  | .controlCharacter => "control character (\\u0000-\\u001F) found while parsing a string"
  | .loneSurrogate => "lone leading surrogate in hex escape"
  | .unfinishedSurrogatePair => "unexpected end of hex escape"
  | .tooDeep => "recursion limit exceeded"
  | .wrongType found wanted =>
    "invalid type: " ++ found.describe floatText ++ ", expected " ++ wanted.describe
  | .wrongValue found wanted =>
    "invalid value: " ++ found.describe floatText ++ ", expected " ++ wanted.describe
  | .wrongLength length wanted =>
    "invalid length " ++ Text.decimal length ++ ", expected " ++ wanted.describe
  | .unknownVariant name known =>
    "unknown variant `" ++ name ++ "`, expected " ++ alternatives known
  | .missingField name => "missing field `" ++ name ++ "`"
  | .duplicateField name => "duplicate field `" ++ name ++ "`"
  | .refused reason => reason

/-- A fault of a JSON document in words. -/
def Fault.message (fault : Fault) : String :=
  fault.describe floatText

end GatedResolver.Json
