import GatedResolver.Binary64.Basic

/-!
# JSON values

A number is an exact integer of at most 64 bits or a finite floating point number. An
object is a list of members; the values that are read from a document and those that a
signature covers have their members in ascending order of keys, one for each key.
-/

namespace GatedResolver.Json

/-- The smallest integer that keeps its exact value. -/
def leastInteger : Int := -9223372036854775808

/-- The first integer that is too large to keep its exact value. -/
def integerLimit : Int := 18446744073709551616

/-- A JSON number. -/
inductive Number where
  | integer (value : Int) (within : leastInteger ≤ value ∧ value < integerLimit)
  | float (value : Binary64) (finite : value.isFinite = true)
deriving DecidableEq

namespace Number

/-- The number of a 64-bit unsigned word. -/
def ofUInt64 (word : UInt64) : Number :=
  .integer word.toNat ⟨by simp [leastInteger], by
    have bound := word.toNat_lt
    simp only [integerLimit]
    omega⟩

/-- The number of a 32-bit unsigned word. -/
def ofUInt32 (word : UInt32) : Number :=
  .integer word.toNat ⟨by simp [leastInteger], by
    have bound := word.toNat_lt
    simp only [integerLimit]
    omega⟩

/-- The number of a 16-bit unsigned word. -/
def ofUInt16 (word : UInt16) : Number :=
  .integer word.toNat ⟨by simp [leastInteger], by
    have bound := word.toNat_lt
    simp only [integerLimit]
    omega⟩

/-- The number of a 64-bit signed word. -/
def ofInt64 (word : Int64) : Number :=
  .integer word.toInt ⟨by
    have bound := word.le_toInt
    simp only [leastInteger]
    omega, by
    have bound := word.toInt_lt
    simp only [integerLimit]
    omega⟩

end Number

/-- A JSON value. -/
inductive Value where
  | null
  | boolean (value : Bool)
  | number (value : Number)
  | string (value : String)
  | array (items : List Value)
  | object (members : List (String × Value))

/-- The member of an object. -/
abbrev Member := String × Value

namespace Value

mutual
/-- Equality of values can be decided. -/
def decideEq : (left right : Value) → Decidable (left = right)
  | .null, .null => isTrue rfl
  | .boolean left, .boolean right => decidable_of_iff (left = right) (by simp)
  | .number left, .number right => decidable_of_iff (left = right) (by simp)
  | .string left, .string right => decidable_of_iff (left = right) (by simp)
  | .array left, .array right =>
    match decideEqItems left right with
    | isTrue equal => isTrue (by rw [equal])
    | isFalse different => isFalse (by simpa using different)
  | .object left, .object right =>
    match decideEqMembers left right with
    | isTrue equal => isTrue (by rw [equal])
    | isFalse different => isFalse (by simpa using different)
  | .null, .boolean _ | .null, .number _ | .null, .string _ | .null, .array _
  | .null, .object _ | .boolean _, .null | .boolean _, .number _ | .boolean _, .string _
  | .boolean _, .array _ | .boolean _, .object _ | .number _, .null
  | .number _, .boolean _ | .number _, .string _ | .number _, .array _
  | .number _, .object _ | .string _, .null | .string _, .boolean _ | .string _, .number _
  | .string _, .array _ | .string _, .object _ | .array _, .null | .array _, .boolean _
  | .array _, .number _ | .array _, .string _ | .array _, .object _ | .object _, .null
  | .object _, .boolean _ | .object _, .number _ | .object _, .string _
  | .object _, .array _ => isFalse (by simp)

/-- Equality of the items of two arrays can be decided. -/
def decideEqItems : (left right : List Value) → Decidable (left = right)
  | [], [] => isTrue rfl
  | [], _ :: _ | _ :: _, [] => isFalse (by simp)
  | leftItem :: leftRest, rightItem :: rightRest =>
    match decideEq leftItem rightItem, decideEqItems leftRest rightRest with
    | isTrue equalItem, isTrue equalRest => isTrue (by rw [equalItem, equalRest])
    | isFalse different, _ => isFalse (by simp [different])
    | _, isFalse different => isFalse (by simp [different])

/-- Equality of the members of two objects can be decided. -/
def decideEqMembers : (left right : List (String × Value)) → Decidable (left = right)
  | [], [] => isTrue rfl
  | [], _ :: _ | _ :: _, [] => isFalse (by simp)
  | (leftKey, leftValue) :: leftRest, (rightKey, rightValue) :: rightRest =>
    match decideEq leftValue rightValue, decideEqMembers leftRest rightRest with
    | isTrue equalValue, isTrue equalRest =>
      decidable_of_iff (leftKey = rightKey) (by simp [equalValue, equalRest])
    | isFalse different, _ => isFalse (by simp [different])
    | _, isFalse different => isFalse (by simp [different])
end

instance : DecidableEq Value := decideEq

end Value

/-- Set the member of a key in members that are in ascending order of keys, in place of
an earlier one with the same key. -/
def insertMember (key : String) (value : Value) : List Member → List Member
  | [] => [(key, value)]
  | (otherKey, otherValue) :: rest =>
    if key < otherKey then (key, value) :: (otherKey, otherValue) :: rest
    else if key = otherKey then (key, value) :: rest
    else (otherKey, otherValue) :: insertMember key value rest

/-- The value of a key among members, the first one if there are several. -/
def member? (key : String) : List Member → Option Value
  | [] => none
  | (otherKey, value) :: rest => if key = otherKey then some value else member? key rest

mutual
/-- The same value with the members of every object, at every depth, in ascending order
of keys. -/
def sortKeys : Value → Value
  | .null => .null
  | .boolean value => .boolean value
  | .number value => .number value
  | .string value => .string value
  | .array items => .array (sortKeysItems [] items)
  | .object members => .object (sortKeysMembers [] members)

/-- Sort the items of an array, on top of those done so far with the latest first. -/
def sortKeysItems (done : List Value) : List Value → List Value
  | [] => done.reverse
  | item :: rest => sortKeysItems (sortKeys item :: done) rest

/-- Put the members of an object in their places among those done so far. -/
def sortKeysMembers (done : List Member) : List (String × Value) → List Member
  | [] => done
  | (key, value) :: rest => sortKeysMembers (insertMember key (sortKeys value) done) rest
end

namespace Value

/-- The value of an optional part, `null` if it is absent. -/
def ofOption {α : Type} (encode : α → Value) : Option α → Value
  | some part => encode part
  | none => .null

/-- The value of a 64-bit unsigned word. -/
def ofUInt64 (word : UInt64) : Value := .number (.ofUInt64 word)

/-- The value of a 32-bit unsigned word. -/
def ofUInt32 (word : UInt32) : Value := .number (.ofUInt32 word)

/-- The value of a 16-bit unsigned word. -/
def ofUInt16 (word : UInt16) : Value := .number (.ofUInt16 word)

/-- The value of a 64-bit signed word. -/
def ofInt64 (word : Int64) : Value := .number (.ofInt64 word)

end Value

end GatedResolver.Json
