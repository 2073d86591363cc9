import GatedResolver.Json.Value
import GatedResolver.Json.Fault

/-!
# Documents with their faults in place

A text is cut into a *tree*: the values that the text spells as far as it follows the
grammar, and a fault at the place where it stops doing so. A reader of a type walks the
tree in the order of the text, so that of two faults it reports the one that comes first,
whether that is a fault of the grammar or a value of the wrong kind.

A value can be read or skipped. Skipping is more lenient: it looks neither at the size of
numbers nor at the characters of strings, and it has its own wording for a few faults.
A value that is only checked is looked at like one that is read, but nothing is made of it.
-/

namespace GatedResolver.Json

/-- A string or a number of a document: what reading it gives, and what is wrong with it
for someone who skips it. -/
structure Token (α : Type) where
  read : Except Fault α
  skipped : Option Fault := none

/-- Why the items of an array or the members of an object break off. -/
inductive Breach where
  | listUnfinished
  | listUnfinishedAfterComma
  | listTrailingComma
  | listUnseparated
  | objectUnfinished
  | objectUnfinishedAfterComma
  | objectTrailingComma
  | objectUnseparated
  | objectKeyMissing

/-- The fault that a breach is for a reader of all items or members. -/
def Breach.whenRead : Breach → Fault
  | .listUnfinished => .unfinished .list
  | .listUnfinishedAfterComma => .unfinished .value
  | .listTrailingComma => .trailingComma
  | .listUnseparated => .expectedItemEnd
  | .objectUnfinished => .unfinished .object
  | .objectUnfinishedAfterComma => .unfinished .value
  | .objectTrailingComma => .trailingComma
  | .objectUnseparated => .expectedMemberEnd
  | .objectKeyMissing => .keyNotString

/-- The fault that a breach is for someone who skips the container. -/
def Breach.whenSkipped : Breach → Fault
  | .listUnfinished => .unfinished .list
  | .listUnfinishedAfterComma => .unfinished .value
  | .listTrailingComma => .expectedValue
  | .listUnseparated => .expectedItemEnd
  | .objectUnfinished => .unfinished .object
  | .objectUnfinishedAfterComma => .unfinished .object
  | .objectTrailingComma => .keyNotString
  | .objectUnseparated => .expectedMemberEnd
  | .objectKeyMissing => .keyNotString

/-- The fault that a breach is for a reader that wants no more items or members. -/
def Breach.whenFull : Breach → Fault
  | .listUnfinished => .unfinished .list
  | .listUnfinishedAfterComma => .trailingCharacters
  | .listTrailingComma => .trailingComma
  | .listUnseparated => .trailingCharacters
  | .objectUnfinished => .unfinished .object
  | .objectUnfinishedAfterComma => .trailingComma
  | .objectTrailingComma => .trailingComma
  | .objectUnseparated => .trailingCharacters
  | .objectKeyMissing => .trailingComma

/-- Where a tree comes from. It matters to a reader that takes fewer items or members of a
container than there are. -/
inductive Source where
  /-- A text, with its faults in place. -/
  | text
  /-- A value without faults, such as a member of a larger value. -/
  | value
  /-- The members of an object that were collected before they were looked at. -/
  | collected
  /-- A settings file. -/
  | settings
deriving DecidableEq

/-- A document as far as it follows the grammar. A container has its complete items or
members and the breach behind them, if it does not close. A broken word starts like `null`,
`true` or `false` and goes on in another way. A foreign scalar is one that JSON has no value
for; it comes from other formats that are read in the same way. -/
inductive Tree where
  | null
  | boolean (value : Bool)
  | number (token : Token Number)
  | string (token : Token String)
  | array (items : List Tree) (breach : Option Breach)
  | object (members : List (Token String × Tree)) (breach : Option Breach)
  | foreign (found : Found)
  | tooDeep (isObject : Bool) (skipped : Option Fault)
  | brokenWord (isNull : Bool) (fault : Fault)
  | broken (fault : Fault)

/-- The kind of a number. -/
def Number.found : Number → Found
  | .integer value _ => .integer value
  | .float value _ => .float value

/-- The kind of a value that is not of the wanted kind. A scalar is read to its end first,
so that a fault inside of it comes before the complaint about its kind. -/
def Tree.found : Tree → Except Fault Found
  | .null => .ok .null
  | .boolean value => .ok (.boolean value)
  | .number token => token.read.map Number.found
  | .string token => token.read.map .string
  | .array _ _ => .ok .sequence
  | .object _ _ => .ok .map
  | .foreign found => .ok found
  | .tooDeep isObject _ => .ok (if isObject then .map else .sequence)
  | .brokenWord _ fault => .error fault
  | .broken fault => .error fault

/-- Refuse a value for its kind. -/
def mismatch {α : Type} (wanted : Wanted) (tree : Tree) : Except Fault α := do
  let found ← tree.found
  throw (.wrongType found wanted)

/-- Read a string, where a string is wanted under some name. -/
def Tree.text (wanted : Wanted) : Tree → Except Fault String
  | .string token => token.read
  | tree => mismatch wanted tree

/-- Raise a fault if there is one. -/
def raise? : Option Fault → Except Fault Unit
  | some fault => .error fault
  | none => .ok ()

mutual
/-- Skip a value. -/
def Tree.skip : Tree → Except Fault Unit
  | .null => .ok ()
  | .boolean _ => .ok ()
  | .number token => raise? token.skipped
  | .string token => raise? token.skipped
  | .array items breach => do
    skipItems items
    raise? (breach.map Breach.whenSkipped)
  | .object members breach => do
    skipMembers members
    raise? (breach.map Breach.whenSkipped)
  | .foreign _ => .ok ()
  | .tooDeep _ skipped => raise? skipped
  | .brokenWord _ fault => .error fault
  | .broken fault => .error fault

/-- Skip the items of an array. -/
def skipItems : List Tree → Except Fault Unit
  | [] => .ok ()
  | item :: rest =>
    match item.skip with
    | .error fault => .error fault
    | .ok () => skipItems rest

/-- Skip the members of an object. -/
def skipMembers : List (Token String × Tree) → Except Fault Unit
  | [] => .ok ()
  | (key, value) :: rest =>
    match raise? key.skipped with
    | .error fault => .error fault
    | .ok () =>
      match value.skip with
      | .error fault => .error fault
      | .ok () => skipMembers rest
end

mutual
/-- Look for the faults that a reader meets in a value, whatever the value means. -/
def Tree.check : Tree → Except Fault Unit
  | .null => .ok ()
  | .boolean _ => .ok ()
  | .number token => token.read.map fun _ => ()
  | .string token => token.read.map fun _ => ()
  | .array items breach => do
    checkItems items
    raise? (breach.map Breach.whenRead)
  | .object members breach => do
    checkMembers members
    raise? (breach.map Breach.whenRead)
  | .foreign _ => .error .expectedValue
  | .tooDeep _ _ => .error .tooDeep
  | .brokenWord _ fault => .error fault
  | .broken fault => .error fault

/-- Look for faults in the items of an array. -/
def checkItems : List Tree → Except Fault Unit
  | [] => .ok ()
  | item :: rest =>
    match item.check with
    | .error fault => .error fault
    | .ok () => checkItems rest

/-- Look for faults in the members of an object. -/
def checkMembers : List (Token String × Tree) → Except Fault Unit
  | [] => .ok ()
  | (key, value) :: rest =>
    match key.read with
    | .error fault => .error fault
    | .ok _ =>
      match value.check with
      | .error fault => .error fault
      | .ok () => checkMembers rest
end

mutual
/-- The tree of a value: no part of it is at fault. -/
def Tree.ofValue : Value → Tree
  | .null => .null
  | .boolean value => .boolean value
  | .number value => .number ⟨.ok value, none⟩
  | .string value => .string ⟨.ok value, none⟩
  | .array items => .array (Tree.ofItems [] items) none
  | .object members => .object (Tree.ofMembers [] members) none

/-- The trees of items, on top of those made so far with the latest first. -/
def Tree.ofItems (done : List Tree) : List Value → List Tree
  | [] => done.reverse
  | item :: rest => Tree.ofItems (Tree.ofValue item :: done) rest

/-- The trees of members, on top of those made so far with the latest first. -/
def Tree.ofMembers (done : List (Token String × Tree)) :
    List (String × Value) → List (Token String × Tree)
  | [] => done.reverse
  | (key, value) :: rest =>
    Tree.ofMembers ((⟨.ok key, none⟩, Tree.ofValue value) :: done) rest
end

end GatedResolver.Json
