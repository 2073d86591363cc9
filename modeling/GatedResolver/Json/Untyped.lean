import GatedResolver.Json.Document

/-!
# Values of any kind

A value of any kind is taken from a tree as it stands, with one exception. An object whose
first member has the key of *enclosures* holds a document in a string: the value of that
document stands in place of the object. An enclosed document is read like any other, so
that it may enclose documents in turn; it may not have members beside it.

A document that is enclosed in another is shorter than it, and so the length of the text
bounds how far enclosures can go.
-/

namespace GatedResolver.Json

/-- The key of the member that encloses a document. -/
def enclosureKey : String := "$serde_json::private::RawValue"

/-- What an object encloses, if its first member has the key of enclosures. -/
def enclosed? : List (Token String × Tree) → Option Tree
  | [] => none
  | (key, tree) :: _ =>
    match key.read with
    | .ok name => if name = enclosureKey then some tree else none
    | .error _ => none

/-- What it means that an enclosure has so many members and a breach behind them. -/
def checkEnclosure (source : Source) (count : Nat) (breach : Option Breach) :
    Except Fault Unit :=
  if count ≤ 1 then raise? (breach.map Breach.whenFull)
  else
    match source with
    | .text => .error .trailingComma
    | .collected => .error (.wrongLength count (.exactMembers 1))
    | .value | .settings => .error (.wrongLength count .fewerMembers)

mutual
/-- Read a value of any kind, where `readEnclosed` reads the texts of enclosed documents.
The members of objects come into ascending order of keys, and of several members with one
key the last remains. -/
def Tree.valueWith (readEnclosed : Bytes → Except Fault Value) (source : Source) :
    Tree → Except Fault Value
  | .null => .ok .null
  | .boolean value => .ok (.boolean value)
  | .number token => token.read.map .number
  | .string token => token.read.map .string
  | .array items breach => do
    let values ← readItems readEnclosed source [] items
    raise? (breach.map Breach.whenRead)
    return .array values
  | .object members breach =>
    match enclosed? members with
    | some tree => do
      let value ← readEnclosed (Text.utf8 (← tree.text .enclosedText))
      checkEnclosure source members.length breach
      return value
    | none => do
      let values ← readMembers readEnclosed source [] members
      raise? (breach.map Breach.whenRead)
      return .object values
  | .foreign _ => .error .expectedValue
  | .tooDeep _ _ => .error .tooDeep
  | .brokenWord _ fault => .error fault
  | .broken fault => .error fault

/-- Read the items of an array, on top of those read so far with the latest first. -/
def readItems (readEnclosed : Bytes → Except Fault Value) (source : Source) (done : List Value) :
    List Tree → Except Fault (List Value)
  | [] => .ok done.reverse
  | item :: rest =>
    match item.valueWith readEnclosed source with
    | .error fault => .error fault
    | .ok value => readItems readEnclosed source (value :: done) rest

/-- Read the members of an object into those read so far. -/
def readMembers (readEnclosed : Bytes → Except Fault Value) (source : Source)
    (done : List Member) : List (Token String × Tree) → Except Fault (List Member)
  | [] => .ok done
  | (key, tree) :: rest =>
    match key.read with
    | .error fault => .error fault
    | .ok name =>
      match tree.valueWith readEnclosed source with
      | .error fault => .error fault
      | .ok value => readMembers readEnclosed source (insertMember name value done) rest
end

/-- Read a text as a value of any kind. The fuel bounds how many documents enclose each
other, and the length of the text is enough of it: only the empty text, which holds no
value, is read without any. -/
def Value.ofTextWithin : (fuel : Nat) → Bytes → Except Fault Value
  | 0, _ => .error (.unfinished .value)
  | fuel + 1, text =>
    (Document.ofText text).readWith (Tree.valueWith (Value.ofTextWithin fuel) .text)

/-- Read a text as a value of any kind. -/
def Value.ofText (text : Bytes) : Except Fault Value :=
  Value.ofTextWithin text.length text

/-- Read a value of any kind. -/
def Tree.value (source : Source) (tree : Tree) : Except Fault Value :=
  tree.valueWith Value.ofText source

/-- Read the members of an object, which is not an enclosure, into ascending order of
keys. -/
def Member.ofTrees (source : Source) (members : List (Token String × Tree)) :
    Except Fault (List Member) :=
  readMembers Value.ofText source [] members

end GatedResolver.Json
