import GatedResolver.Json.Numeral
import GatedResolver.Json.Tree
import GatedResolver.Text.Utf8

/-!
# Cutting a text into a tree

The white space of a document is space, tab, line feed and carriage return. Containers are
nested at most 127 deep; what is inside of a deeper one is only checked for its grammar,
for the case that a reader skips it.
-/

namespace GatedResolver.Json

/-- The white space between the parts of a document. -/
def isSpace (octet : UInt8) : Bool :=
  octet == 0x20 || octet == 0x09 || octet == 0x0A || octet == 0x0D

/-- Drop white space from the front of a text. -/
def dropSpace (text : Bytes) : Bytes :=
  text.dropWhile isSpace

/-- A token that was cut out of a text, and the text behind it. Where the token breaks the
grammar no text is left, since nothing behind it can be reached. -/
structure Scan (α : Type) where
  token : Token α
  rest : Option Bytes

/-- A token that breaks the grammar in the same way for readers and for skippers, if
reading did not fail at an earlier place. -/
def Scan.broken {α : Type} (earlier : Option Fault) (fault : Fault) : Scan α :=
  ⟨⟨.error (earlier.getD fault), some fault⟩, none⟩

/-- The byte that a one-letter escape stands for. -/
def escaped? (letter : UInt8) : Option UInt8 :=
  if letter == 0x22 || letter == 0x5C || letter == 0x2F then some letter
  else if letter == 0x62 then some 0x08
  else if letter == 0x66 then some 0x0C
  else if letter == 0x6E then some 0x0A
  else if letter == 0x72 then some 0x0D
  else if letter == 0x74 then some 0x09
  else none

/-- The number that four hexadecimal digits stand for. -/
def hexWord? (first second third fourth : UInt8) : Option Nat := do
  let firstValue ← Text.hexValue? first
  let secondValue ← Text.hexValue? second
  let thirdValue ← Text.hexValue? third
  let fourthValue ← Text.hexValue? fourth
  return ((firstValue * 16 + secondValue) * 16 + thirdValue) * 16 + fourthValue

/-- The first half of a surrogate pair. -/
def isHighSurrogate (point : Nat) : Bool :=
  0xD800 ≤ point && point ≤ 0xDBFF

/-- The second half of a surrogate pair. -/
def isLowSurrogate (point : Nat) : Bool :=
  0xDC00 ≤ point && point ≤ 0xDFFF

/-- What the bytes of a string have shown so far: the bytes of its content with the latest
first, a high surrogate that waits for its partner, and the first reason why the string
cannot be read, although it can still be skipped. -/
structure StringState where
  content : Bytes := []
  pending : Option Nat := none
  unreadable : Option Fault := none

/-- Record a reason why a string cannot be read. The first reason stands. -/
def StringState.spoil (state : StringState) (fault : Fault) : StringState :=
  ⟨state.content, none, some (state.unreadable.getD fault)⟩

/-- A high surrogate that is not followed by an escape makes the string unreadable. -/
def StringState.settle (state : StringState) : StringState :=
  match state.pending with
  | some _ => state.spoil .unfinishedSurrogatePair
  | none => state

/-- Add one byte of content. -/
def StringState.push (state : StringState) (octet : UInt8) : StringState :=
  ⟨octet :: state.content, state.pending, state.unreadable⟩

/-- Add the UTF-8 form of a code point to the content. -/
def StringState.pushPoint (state : StringState) (point : Nat) : StringState :=
  ⟨(String.utf8EncodeChar (Char.ofNat point)).reverse ++ state.content, none,
    state.unreadable⟩

/-- Add the code unit of a `\u` escape. -/
def StringState.pushUnit (state : StringState) (unit : Nat) : StringState :=
  match state.pending with
  | some high =>
    if isLowSurrogate unit then
      state.pushPoint (0x10000 + (high - 0xD800) * 1024 + (unit - 0xDC00))
    else state.spoil .loneSurrogate
  | none =>
    if isLowSurrogate unit then state.spoil .loneSurrogate
    else if isHighSurrogate unit then ⟨state.content, some unit, state.unreadable⟩
    else state.pushPoint unit

/-- The content of a string at its closing quote. -/
def StringState.finish (state : StringState) : Except Fault String :=
  match state.unreadable with
  | some fault => .error fault
  | none =>
    match Text.decodeUtf8? state.content.reverse with
    | some text => .ok text
    | none => .error .invalidCharacter

/-- Cut a string out of a text, from behind its opening quote. -/
def scanString (state : StringState) : Bytes → Scan String
  | [] => .broken state.unreadable (.unfinished .string)
  | octet :: rest =>
    if octet == 0x22 then
      ⟨⟨state.settle.finish, none⟩, some rest⟩
    else if octet == 0x5C then
      match rest with
      | [] => .broken state.unreadable (.unfinished .string)
      | letter :: afterLetter =>
        if letter == 0x75 then
          match afterLetter with
          | first :: second :: third :: fourth :: afterDigits =>
            match hexWord? first second third fourth with
            | some unit => scanString (state.pushUnit unit) afterDigits
            | none => .broken state.unreadable .invalidEscape
          | _ => .broken state.unreadable (.unfinished .string)
        else
          match escaped? letter with
          | some plain => scanString (state.settle.push plain) afterLetter
          | none => .broken state.settle.unreadable .invalidEscape
    else if octet < 0x20 then .broken state.settle.unreadable .controlCharacter
    else scanString (state.settle.push octet) rest

/-- Cut a number out of a text that starts with a minus sign or a digit. -/
def scanNumber (text : Bytes) : Scan Number :=
  match scanNumeral text with
  | .complete numeral rest => ⟨⟨numeral.value, none⟩, some rest⟩
  | .broken whenRead => ⟨⟨.error whenRead, some .invalidNumber⟩, none⟩

/-- Take the letters of a word from the front of a text. -/
def scanWord : (word : Bytes) → (text : Bytes) → Except Fault Bytes
  | [], text => .ok text
  | _ :: _, [] => .error (.unfinished .value)
  | letter :: word, octet :: text =>
    if octet == letter then scanWord word text else .error .expectedWord

/-- Whether a number can start with a byte. -/
def startsNumber (octet : UInt8) : Bool :=
  octet == 0x2D || isDigit octet

/-- A scalar value, cut out of a text that starts with `octet`, and the text behind it. A
byte that starts no value is a fault. -/
def scanScalar (octet : UInt8) (rest : Bytes) : Tree × Option Bytes :=
  let word (letters : Bytes) (tree : Tree) : Tree × Option Bytes :=
    match scanWord letters rest with
    | .ok behind => (tree, some behind)
    | .error fault => (.brokenWord (octet == 0x6E) fault, none)
  if octet == 0x22 then
    let scan := scanString ⟨[], none, none⟩ rest
    (.string scan.token, scan.rest)
  else if startsNumber octet then
    let scan := scanNumber (octet :: rest)
    (.number scan.token, scan.rest)
  else if octet == 0x6E then word [0x75, 0x6C, 0x6C] .null
  else if octet == 0x74 then word [0x72, 0x75, 0x65] (.boolean true)
  else if octet == 0x66 then word [0x61, 0x6C, 0x73, 0x65] (.boolean false)
  else (.broken .expectedValue, none)

/-- What may come next while a value is skipped. -/
inductive SkipStage where
  | value
  | firstItemOrEnd
  | afterValue

/-- Skip to the end of the containers that are open, innermost first; `true` stands for an
object. The fuel bounds the number of parts that are looked at. -/
def skipOpen : (fuel : Nat) → SkipStage → (isObject : List Bool) → Bytes →
    Except Fault Bytes
  | _, _, [], text => .ok text
  | 0, _, _ :: _, _ => .error (.unfinished .value)
  | fuel + 1, stage, inner :: outer, text =>
    let endFault : Fault := if inner then .unfinished .object else .unfinished .list
    let closing : UInt8 := if inner then 0x7D else 0x5D
    match stage, dropSpace text with
    | .value, [] => .error (.unfinished .value)
    | .value, octet :: rest =>
      if octet == 0x5B then skipOpen fuel .firstItemOrEnd (false :: inner :: outer) rest
      else if octet == 0x7B then skipOpen fuel .firstItemOrEnd (true :: inner :: outer) rest
      else
        match scanScalar octet rest with
        | (_, some behind) => skipOpen fuel .afterValue (inner :: outer) behind
        | (tree, none) =>
          match tree.skip with
          | .error fault => .error fault
          | .ok () => .error .expectedValue
    | .firstItemOrEnd, [] => .error endFault
    | .firstItemOrEnd, octet :: rest =>
      if octet == closing then skipOpen fuel .afterValue outer rest
      else if inner then skipMember fuel (inner :: outer) (octet :: rest)
      else skipOpen fuel .value (inner :: outer) (octet :: rest)
    | .afterValue, [] => .error endFault
    | .afterValue, octet :: rest =>
      if octet == closing then skipOpen fuel .afterValue outer rest
      else if octet == 0x2C then
        if inner then
          match dropSpace rest with
          | [] => .error (.unfinished .object)
          | next :: behind => skipMember fuel (inner :: outer) (next :: behind)
        else skipOpen fuel .value (inner :: outer) rest
      else .error (if inner then .expectedMemberEnd else .expectedItemEnd)
where
  /-- Skip the key of a member and its colon, then its value. -/
  skipMember : (fuel : Nat) → (isObject : List Bool) → Bytes → Except Fault Bytes
    | 0, _, _ => .error (.unfinished .value)
    | fuel + 1, stack, text =>
      match text with
      | 0x22 :: rest =>
        match scanString ⟨[], none, none⟩ rest with
        | ⟨token, none⟩ => .error (token.skipped.getD .expectedValue)
        | ⟨_, some behind⟩ =>
          match dropSpace behind with
          | 0x3A :: afterColon => skipOpen fuel .value stack afterColon
          | _ :: _ => .error .expectedColon
          | [] => .error (.unfinished .object)
      | _ => .error .keyNotString

end GatedResolver.Json
