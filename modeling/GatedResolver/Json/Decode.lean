import GatedResolver.Json.Untyped

/-!
# Reading typed values

A decoder turns a tree into a value of a type. A record is written as an object with a
member for each field, or as an array of the fields in order. Unknown members are skipped;
a field that comes twice is refused when it comes for the second time, and a missing one
at the end of the object.

Where a tree comes from matters where something is left over: an array that is longer than
the record, and members beside an enclosed document.
-/

namespace GatedResolver.Json

/-- A way to read a tree as a value of a type. -/
abbrev Decoder (α : Type) := Source → Tree → Except Fault α

namespace Decoder

/-- Read a value of any kind. -/
def any : Decoder Value := Tree.value

/-- Read a string. -/
def text : Decoder String := fun _ tree => tree.text .text

/-- Read `true` or `false`. -/
def boolean : Decoder Bool
  | _, .boolean value => .ok value
  | _, tree => mismatch .boolean tree

/-- A range of integers with a name. -/
structure IntegerRange where
  name : String
  least : Int
  greatest : Int

/-- Read an integer of a range. -/
def integerIn (range : IntegerRange) : Decoder Int
  | _, .number token => do
    match ← token.read with
    | .integer value _ =>
      if range.least ≤ value ∧ value ≤ range.greatest then return value
      else throw (.wrongValue (.integer value) (.word range.name))
    | .float value _ => throw (.wrongType (.float value) (.word range.name))
  | _, tree => mismatch (.word range.name) tree

/-- The unsigned words of 16 bits. -/
def range16 : IntegerRange := ⟨"u16", 0, 65535⟩

/-- The unsigned words of 32 bits. -/
def range32 : IntegerRange := ⟨"u32", 0, 4294967295⟩

/-- The unsigned words of 64 bits. -/
def range64 : IntegerRange := ⟨"u64", 0, 18446744073709551615⟩

/-- The lengths of texts in memory. -/
def rangeSize : IntegerRange := ⟨"usize", 0, 18446744073709551615⟩

/-- The signed words of 64 bits. -/
def rangeSigned64 : IntegerRange := ⟨"i64", -9223372036854775808, 9223372036854775807⟩

/-- Change what a decoder gives. -/
def map {α β : Type} (change : α → β) (decoder : Decoder α) : Decoder β :=
  fun source tree => (decoder source tree).map change

/-- Pass what a decoder gives through a rule that may refuse it. -/
def check {α β : Type} (rule : α → Except String β) (decoder : Decoder α) : Decoder β :=
  fun source tree => do
    let value ← decoder source tree
    match rule value with
    | .ok accepted => return accepted
    | .error reason => throw (.refused reason)

/-- Read an unsigned word of 16 bits. -/
def uint16 : Decoder UInt16 := map (fun value => UInt16.ofNat value.toNat) (integerIn range16)

/-- Read an unsigned word of 32 bits. -/
def uint32 : Decoder UInt32 := map (fun value => UInt32.ofNat value.toNat) (integerIn range32)

/-- Read an unsigned word of 64 bits. -/
def uint64 : Decoder UInt64 := map (fun value => UInt64.ofNat value.toNat) (integerIn range64)

/-- Read the length of a text. -/
def size : Decoder UInt64 := map (fun value => UInt64.ofNat value.toNat) (integerIn rangeSize)

/-- Read a signed word of 64 bits. -/
def int64 : Decoder Int64 := map Int64.ofInt (integerIn rangeSigned64)

/-- Read `null` as nothing. A word that starts like `null` has to be that word. -/
def nullable {α : Type} (decoder : Decoder α) : Decoder (Option α)
  | _, .null => .ok none
  | _, .brokenWord true fault => .error fault
  | source, tree => (decoder source tree).map some

/-- Read items one after the other, on top of those read so far with the latest first. -/
def itemsOnto {α : Type} (decoder : Tree → Except Fault α) (done : List α) :
    List Tree → Except Fault (List α)
  | [] => .ok done.reverse
  | item :: rest =>
    match decoder item with
    | .error fault => .error fault
    | .ok value => itemsOnto decoder (value :: done) rest

/-- Read an array whose items are all of one type. -/
def list {α : Type} (decoder : Decoder α) : Decoder (List α)
  | source, .array items breach => do
    let values ← itemsOnto (decoder source) [] items
    raise? (breach.map Breach.whenRead)
    return values
  | _, tree => mismatch .sequence tree

end Decoder

/-- The fields of a record and how to read them. A draft holds the fields that were met so
far. -/
structure Fields (α : Type) where
  /-- The fields met so far. -/
  Draft : Type
  /-- How many fields there are. -/
  count : Nat
  /-- No field is met yet. -/
  blank : Draft
  /-- Read the field of a name into a draft; nothing if no field has that name. -/
  take : String → Source → Tree → Draft → Option (Except Fault Draft)
  /-- The record of a draft. -/
  finish : Draft → Except Fault α
  /-- Read the fields from the front of a list of items, where the first of them is the
  field of a given index. The fault says what is wrong if the items end before a field. -/
  fromItems : Source → (ended : Nat → Bool → Except Fault Unit) → (index : Nat) → List Tree →
    Except Fault (α × List Tree)

namespace Fields

/-- A record of one field. `absent` is what stands in for it in an object that does not
have it, and `replacement` what stands in for it in an array that is too short. -/
def one {α : Type} (name : String) (decoder : Decoder α) (absent : Except Fault α)
    (replacement : Option α) : Fields α where
  Draft := Option α
  count := 1
  blank := none
  take key source tree draft :=
    if key = name then
      match draft with
      | some _ => some (.error (.duplicateField name))
      | none => some ((decoder source tree).map some)
    else none
  finish draft :=
    match draft with
    | some value => .ok value
    | none => absent
  fromItems source ended index items :=
    match items with
    | item :: rest => (decoder source item).map fun value => (value, rest)
    | [] => do
      ended index replacement.isSome
      match replacement with
      | some value => return (value, [])
      | none => throw (.missingField name)

/-- A field that an object must have. -/
def required {α : Type} (name : String) (decoder : Decoder α) : Fields α :=
  one name decoder (.error (.missingField name)) none

/-- A field that an object may lack or give as `null`. -/
def optional {α : Type} (name : String) (decoder : Decoder α) : Fields (Option α) :=
  one name (Decoder.nullable decoder) (.ok none) none

/-- A field with a default. -/
def defaulted {α : Type} (name : String) (decoder : Decoder α) (default : α) : Fields α :=
  one name decoder (.ok default) (some default)

/-- The fields of two records together. -/
def both {α β : Type} (left : Fields α) (right : Fields β) : Fields (α × β) where
  Draft := left.Draft × right.Draft
  count := left.count + right.count
  blank := (left.blank, right.blank)
  take key source tree draft :=
    match left.take key source tree draft.1 with
    | some taken => some (taken.map fun changed => (changed, draft.2))
    | none =>
      match right.take key source tree draft.2 with
      | some taken => some (taken.map fun changed => (draft.1, changed))
      | none => none
  finish draft := do
    let leftValue ← left.finish draft.1
    let rightValue ← right.finish draft.2
    return (leftValue, rightValue)
  fromItems source ended index items := do
    let (leftValue, behindLeft) ← left.fromItems source ended index items
    let (rightValue, behindRight) ←
      right.fromItems source ended (index + left.count) behindLeft
    return ((leftValue, rightValue), behindRight)

/-- Make a record of fields. -/
def map {α β : Type} (make : α → β) (fields : Fields α) : Fields β where
  Draft := fields.Draft
  count := fields.count
  blank := fields.blank
  take := fields.take
  finish draft := (fields.finish draft).map make
  fromItems source ended index items :=
    (fields.fromItems source ended index items).map fun (value, rest) => (make value, rest)

end Fields

/-- Read the members of an object into a draft, in their order. Members that `take` does
not know are skipped. -/
def takeMembers {Draft : Type} (take : String → Tree → Draft → Option (Except Fault Draft))
    (draft : Draft) : List (Token String × Tree) → Except Fault Draft
  | [] => .ok draft
  | (key, tree) :: rest =>
    match key.read with
    | .error fault => .error fault
    | .ok name =>
      match take name tree draft with
      | some (.error fault) => .error fault
      | some (.ok changed) => takeMembers take changed rest
      | none =>
        match tree.skip with
        | .error fault => .error fault
        | .ok () => takeMembers take draft rest

/-- What an array that is longer than the record means. -/
def checkLeftover (source : Source) (count total : Nat) (leftover : List Tree)
    (breach : Option Breach) : Except Fault Unit :=
  match source, leftover with
  | .settings, _ => .ok ()
  | .text, [] => raise? (breach.map Breach.whenFull)
  | .text, _ :: _ => .error .trailingCharacters
  | _, [] => .ok ()
  | .value, _ :: _ => .error (.wrongLength total .fewerItems)
  | .collected, _ :: _ => .error (.wrongLength total (.exactItems count))

/-- Read a record from an object or from an array. -/
def Decoder.record {α : Type} (name : String) (fields : Fields α) : Decoder α
  | source, .object members breach => do
    let draft ← takeMembers (fun key => fields.take key source) fields.blank members
    raise? (breach.map Breach.whenRead)
    fields.finish draft
  | source, .array items breach => do
    let ended (index : Nat) (replaceable : Bool) : Except Fault Unit := do
      raise? (breach.map Breach.whenRead)
      if replaceable then return ()
      else throw (.wrongLength index (.recordItems name fields.count))
    let (value, leftover) ← fields.fromItems source ended 0 items
    checkLeftover source fields.count items.length leftover breach
    return value
  | _, tree => mismatch (.record name) tree

/-- Read a text as a value of a type. -/
def Decoder.decode {α : Type} (decoder : Decoder α) (text : Bytes) : Except Fault α :=
  (Document.ofText text).readWith (decoder .text)

/-- Read a value as a value of a type. -/
def Decoder.decodeValue {α : Type} (decoder : Decoder α) (value : Value) : Except Fault α :=
  decoder .value (Tree.ofValue value)

end GatedResolver.Json
