import GatedResolver.Text.Blank
import GatedResolver.Toml.Scalar

/-!
# Reading settings documents

A document is a sequence of lines: headers of tables, keys with values, comments. A text
that breaks a rule is no document; where and how it does is not told.
-/

namespace GatedResolver.Toml

/-- Spaces and tabs. -/
def isSpace (character : Char) : Bool :=
  character = ' ' || character = '\t'

/-- Drop spaces and tabs. -/
def dropSpaces (text : List Char) : List Char :=
  text.dropWhile isSpace

/-- Control characters other than the tab: they stand nowhere in a document but in its line
ends. -/
def isForbidden (character : Char) : Bool :=
  (character.toNat < 0x20 && character ≠ '\t') || character.toNat = 0x7F

/-- Take a line end from the front of a text. -/
def takeNewline? : List Char → Option (List Char)
  | '\n' :: rest => some rest
  | '\r' :: '\n' :: rest => some rest
  | _ => none

/-- Drop a comment, if the text starts with one. -/
def dropComment : List Char → List Char
  | '#' :: rest => rest.dropWhile fun character => !isForbidden character
  | text => text

/-- Go to the next line: nothing but spaces and a comment may come before it. -/
def endLine? (text : List Char) : Option (List Char) :=
  match dropComment (dropSpaces text) with
  | [] => some []
  | rest => takeNewline? rest

/-- Drop spaces, comments and line ends. -/
def dropLines : (fuel : Nat) → List Char → List Char
  | 0, text => text
  | fuel + 1, text =>
    let rest := dropComment (dropSpaces text)
    match takeNewline? rest with
    | some next => dropLines fuel next
    | none => rest

/-- The character of a hexadecimal escape. -/
def escapedPoint? (digits : List Char) : Option Char := do
  let point ← grouped? 16 digits
  if digits.contains '_' then none
  else if point < 0xD800 ∨ (0xDFFF < point ∧ point < 0x110000) then some (Char.ofNat point)
  else none

/-- The character of a one-letter escape. -/
def escapedLetter? (letter : Char) : Option Char :=
  if letter = 'b' then some '\x08'
  else if letter = 't' then some '\t'
  else if letter = 'n' then some '\n'
  else if letter = 'f' then some '\x0c'
  else if letter = 'r' then some '\r'
  else if letter = 'e' then some '\x1b'
  else if letter = '"' then some '"'
  else if letter = '\\' then some '\\'
  else none

/-- How many hexadecimal digits follow the letter of an escape. -/
def escapeLength? (letter : Char) : Option Nat :=
  if letter = 'x' then some 2
  else if letter = 'u' then some 4
  else if letter = 'U' then some 8
  else none

/-- Read an escape, from behind its backslash. -/
def escape? : List Char → Option (Char × List Char)
  | [] => none
  | letter :: rest =>
    match escapeLength? letter with
    | some count =>
      if (rest.take count).length = count then
        (escapedPoint? (rest.take count)).map fun character => (character, rest.drop count)
      else none
    | none => (escapedLetter? letter).map fun character => (character, rest)

/-- Read a string on one line, from behind its opening quote, on top of the characters read
so far with the latest first. -/
def basicString? : (fuel : Nat) → (done : List Char) → List Char → Option (String × List Char)
  | 0, _, _ => none
  | _, _, [] => none
  | fuel + 1, done, character :: rest =>
    if character = '"' then some (String.ofList done.reverse, rest)
    else if character = '\\' then
      match escape? rest with
      | some (escaped, behind) => basicString? fuel (escaped :: done) behind
      | none => none
    else if isForbidden character then none
    else basicString? fuel (character :: done) rest

/-- Read a string without escapes on one line, from behind its opening quote. -/
def literalString? (text : List Char) : Option (String × List Char) :=
  let content := text.takeWhile fun character => character ≠ '\'' && !isForbidden character
  match text.drop content.length with
  | '\'' :: rest => some (String.ofList content, rest)
  | _ => none

/-- Drop a line end right behind the opening quotes of a long string. -/
def dropFirstNewline (text : List Char) : List Char :=
  (takeNewline? text).getD text

/-- Whether only blanks stand between here and the next line end. -/
def lineIsBlank (text : List Char) : Bool :=
  (takeNewline? (dropSpaces text)).isSome

/-- Drop spaces and line ends. -/
def dropBlankLines : List Char → List Char
  | '\r' :: '\n' :: rest => dropBlankLines rest
  | character :: rest =>
    if isSpace character || character = '\n' then dropBlankLines rest else character :: rest
  | [] => []

/-- How many of a character stand at the front of a text, counted up to five. -/
def quoteRun (quote : Char) (text : List Char) : Nat :=
  ((text.take 5).takeWhile (· = quote)).length

/-- Read a string of several lines, from behind its opening quotes, on top of the characters
read so far with the latest first. Up to two quotes may stand before the closing ones. -/
def longString? (quote : Char) (escapes : Bool) : (fuel : Nat) → (done : List Char) →
    List Char → Option (String × List Char)
  | 0, _, _ => none
  | _, _, [] => none
  | fuel + 1, done, character :: rest =>
    if character = quote then
      let run := quoteRun quote (character :: rest)
      if 3 ≤ run then
        some (String.ofList (List.replicate (run - 3) quote ++ done).reverse,
          (character :: rest).drop run)
      else longString? quote escapes fuel (character :: done) rest
    else if character = '\\' ∧ escapes then
      if lineIsBlank rest then longString? quote escapes fuel done (dropBlankLines rest)
      else
        match escape? rest with
        | some (escaped, behind) => longString? quote escapes fuel (escaped :: done) behind
        | none => none
    else if character = '\n' ∨ !isForbidden character ∨ (takeNewline? (character :: rest)).isSome then
      longString? quote escapes fuel (character :: done) rest
    else none

/-- The characters of keys without quotes. -/
def isBareKey (character : Char) : Bool :=
  character.isAlphanum || character = '_' || character = '-'

/-- Read one part of a key. -/
def keyPart? (fuel : Nat) (text : List Char) : Option (String × List Char) :=
  match text with
  | '"' :: rest => basicString? fuel [] rest
  | '\'' :: rest => literalString? rest
  | _ =>
    let bare := text.takeWhile isBareKey
    if bare.isEmpty then none else some (String.ofList bare, text.drop bare.length)

/-- Read the parts of a key between dots, on top of those read so far with the latest
first. -/
def keyOnto? (size : Nat) : (fuel : Nat) → (done : List String) → List Char →
    Option (List String × List Char)
  | 0, _, _ => none
  | fuel + 1, done, text =>
    match keyPart? size (dropSpaces text) with
    | none => none
    | some (part, behind) =>
      match dropSpaces behind with
      | '.' :: rest => keyOnto? size fuel (part :: done) rest
      | rest => some ((part :: done).reverse, rest)

/-- How deep arrays and inline tables may be nested, and how many parts a key may have. -/
def depthLimit : Nat := 80

/-- Read a key: its parts, of which there is at least one. -/
def key? (fuel : Nat) (text : List Char) : Option (List String × List Char) :=
  match keyOnto? fuel fuel [] text with
  | some (path, rest) => if path.length ≤ depthLimit then some (path, rest) else none
  | none => none

/-- The characters of scalars without quotes. -/
def isBareScalar (character : Char) : Bool :=
  isBareKey character || character = '+' || character = '.' || character = ':'

/-- Read a scalar without quotes. A date may be separated from its time by a space. -/
def bareScalar? (text : List Char) : Option (Node × List Char) :=
  let first := text.takeWhile isBareScalar
  let behind := text.drop first.length
  let extended :=
    match behind with
    | ' ' :: next :: rest =>
      if isDate first && next.isDigit then
        some (first ++ ' ' :: (next :: rest).takeWhile isBareScalar)
      else none
    | _ => none
  match extended with
  | some longer => (scalar? longer).map fun node => (node, text.drop longer.length)
  | none => (scalar? first).map fun node => (node, behind)

/-- Read a string in one of its four forms. -/
def string? (fuel : Nat) (text : List Char) : Option (String × List Char) :=
  match text with
  | '"' :: '"' :: '"' :: rest => longString? '"' true fuel [] (dropFirstNewline rest)
  | '\'' :: '\'' :: '\'' :: rest => longString? '\'' false fuel [] (dropFirstNewline rest)
  | '"' :: rest => basicString? fuel [] rest
  | '\'' :: rest => literalString? rest
  | _ => none

/-- Read the items of an array, from behind its opening bracket or a comma, on top of those
read so far with the latest first. -/
def items? (value : List Char → Option (Node × List Char)) (size : Nat) : (fuel : Nat) →
    (done : List Node) → List Char → Option (Node × List Char)
  | 0, _, _ => none
  | fuel + 1, done, text =>
    match dropLines size text with
    | ']' :: rest => some (.array done.reverse, rest)
    | start =>
      match value start with
      | none => none
      | some (item, behind) =>
        match dropLines size behind with
        | ',' :: rest => items? value size fuel (item :: done) rest
        | ']' :: rest => some (.array (item :: done).reverse, rest)
        | _ => none

/-- Put a value under a key of one or more parts. -/
def assign (path : List String) (node : Node) (members : Members) : Option Members :=
  match path.getLast? with
  | some key => members.descend true (Members.add key node) path.dropLast
  | none => none

/-- Read the equals sign between a key and its value in an inline table. Lines may end
before it and behind it. -/
def inlineEquals? (size : Nat) (text : List Char) : Option (List Char) :=
  match dropLines size text with
  | '=' :: rest => some (dropLines size rest)
  | _ => none

/-- Read the members of an inline table, from behind its opening brace or a comma. -/
def inlineMembers? (value : List Char → Option (Node × List Char)) (size : Nat) :
    (fuel : Nat) → (done : Members) → List Char → Option (Node × List Char)
  | 0, _, _ => none
  | fuel + 1, done, text =>
    match dropLines size text with
    | '\x7d' :: rest => some (.table .inlined done, rest)
    | start =>
      match key? size start with
      | none => none
      | some (path, behindKey) =>
        match (inlineEquals? size behindKey).bind value with
        | none => none
        | some (node, behind) =>
          match assign path node done with
          | none => none
          | some members =>
            match dropLines size behind with
            | ',' :: rest => inlineMembers? value size fuel members rest
            | '\x7d' :: rest => some (.table .inlined members, rest)
            | _ => none

/-- Read a value, with room for so many more nested containers. -/
def value? (size : Nat) : (room : Nat) → List Char → Option (Node × List Char)
  | room, text =>
    match text with
    | '[' :: rest =>
      match room with
      | 0 => none
      | room + 1 => items? (value? size room) size (size + 1) [] rest
    | '\x7b' :: rest =>
      match room with
      | 0 => none
      | room + 1 => inlineMembers? (value? size room) size (size + 1) [] rest
    | _ =>
      match string? (size + 1) text with
      | some (content, rest) => some (.string content, rest)
      | none =>
        match text with
        | '"' :: _ => none
        | '\'' :: _ => none
        | _ => bareScalar? text

/-- A document while it is read: the top table, and the path of the current header. -/
structure Progress where
  root : Members
  header : List String

/-- Start the table of a header. -/
def Progress.openHeader (progress : Progress) (listed : Bool) (path : List String) :
    Option Progress := do
  let key ← path.getLast?
  let change := if listed then Members.openListed key else Members.openTable key
  let root ← progress.root.descend false change path.dropLast
  return ⟨root, path⟩

/-- Put a value under a key of the current table. -/
def Progress.put (progress : Progress) (path : List String) (node : Node) : Option Progress := do
  let root ← progress.root.descend false (assign path node) progress.header
  return ⟨root, progress.header⟩

/-- Read one line that is not empty. -/
def line? (size : Nat) (progress : Progress) (text : List Char) :
    Option (Progress × List Char) := do
  match text with
  | '[' :: '[' :: rest =>
    let (path, behind) ← key? (size + 1) rest
    match behind with
    | ']' :: ']' :: after => return (← progress.openHeader true path, after)
    | _ => none
  | '[' :: rest =>
    let (path, behind) ← key? (size + 1) rest
    match behind with
    | ']' :: after => return (← progress.openHeader false path, after)
    | _ => none
  | _ =>
    let (path, behind) ← key? (size + 1) text
    match behind with
    | '=' :: after =>
      let (node, rest) ← value? size depthLimit (dropSpaces after)
      return (← progress.put path node, rest)
    | _ => none

/-- Read lines to the end of the text. -/
def lines? (size : Nat) : (fuel : Nat) → Progress → List Char → Option Progress
  | 0, _, _ => none
  | fuel + 1, progress, text =>
    let advanced :=
      match dropSpaces text with
      | [] => some (progress, [])
      | start =>
        if start.head? = some '#' ∨ (takeNewline? start).isSome then some (progress, start)
        else line? size progress start
    match advanced with
    | none => none
    | some (progress, []) => some progress
    | some (progress, behind) =>
      match endLine? behind with
      | none => none
      | some next => lines? size fuel progress next

/-- Read a document: the members of its top table. A byte order mark in front of it is
dropped. -/
def document? (text : String) : Option Members :=
  let characters :=
    match text.toList with
    | '\uFEFF' :: rest => rest
    | all => all
  (lines? characters.length (characters.length + 1) ⟨[], []⟩ characters).map Progress.root

end GatedResolver.Toml
