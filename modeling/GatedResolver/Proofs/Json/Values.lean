import GatedResolver.Json.Untyped
import Mathlib.Data.String.Basic

/-!
# Values by their structure

`Value.induction` and `Tree.induction` go from the items and members of a container to the
container. A value is
*integral* if its numbers are integers, *open* if no object in it begins with the key of
enclosures, and *canonical* if the members of every object in it are in ascending order of
keys, one for each key. Sorting leaves a canonical value as it is.
-/

namespace GatedResolver.Json

/-- What goes from items and members to their containers holds of every value. -/
@[elab_as_elim]
theorem Value.induction {motive : Value → Prop} (null : motive .null)
    (boolean : ∀ value, motive (.boolean value)) (number : ∀ value, motive (.number value))
    (string : ∀ value, motive (.string value))
    (array : ∀ items, (∀ item ∈ items, motive item) → motive (.array items))
    (object : ∀ members, (∀ member ∈ members, motive member.2) → motive (.object members)) :
    (value : Value) → motive value
  | .null => null
  | .boolean value => boolean value
  | .number value => number value
  | .string value => string value
  | .array items => array items fun item _ =>
    Value.induction null boolean number string array object item
  | .object members => object members fun member _ =>
    Value.induction null boolean number string array object member.2
termination_by value => sizeOf value
decreasing_by
  · next belongs =>
    have smaller := List.sizeOf_lt_of_mem belongs
    simp only [Value.array.sizeOf_spec]
    omega
  · next belongs =>
    have smaller := List.sizeOf_lt_of_mem belongs
    obtain ⟨key, value⟩ := member
    simp only [Value.object.sizeOf_spec, Prod.mk.sizeOf_spec] at smaller ⊢
    omega

/-- What goes from items and members to their containers holds of every tree. -/
@[elab_as_elim]
theorem Tree.induction {motive : Tree → Prop} (null : motive .null)
    (boolean : ∀ value, motive (.boolean value)) (number : ∀ token, motive (.number token))
    (string : ∀ token, motive (.string token))
    (array : ∀ items breach, (∀ item ∈ items, motive item) → motive (.array items breach))
    (object : ∀ members breach, (∀ member ∈ members, motive member.2) →
      motive (.object members breach))
    (foreign : ∀ found, motive (.foreign found))
    (tooDeep : ∀ isObject skipped, motive (.tooDeep isObject skipped))
    (brokenWord : ∀ isNull fault, motive (.brokenWord isNull fault))
    (broken : ∀ fault, motive (.broken fault)) : (tree : Tree) → motive tree
  | .null => null
  | .boolean value => boolean value
  | .number token => number token
  | .string token => string token
  | .array items breach => array items breach fun item _ =>
    Tree.induction null boolean number string array object foreign tooDeep brokenWord broken item
  | .object members breach => object members breach fun member _ =>
    Tree.induction null boolean number string array object foreign tooDeep brokenWord broken member.2
  | .foreign found => foreign found
  | .tooDeep isObject skipped => tooDeep isObject skipped
  | .brokenWord isNull fault => brokenWord isNull fault
  | .broken fault => broken fault
termination_by tree => sizeOf tree
decreasing_by
  · next belongs =>
    have smaller := List.sizeOf_lt_of_mem belongs
    simp only [Tree.array.sizeOf_spec]
    omega
  · next belongs =>
    have smaller := List.sizeOf_lt_of_mem belongs
    obtain ⟨key, value⟩ := member
    simp only [Tree.object.sizeOf_spec, Prod.mk.sizeOf_spec] at smaller ⊢
    omega

mutual
/-- How many containers are nested in each other. -/
def Value.depth : Value → Nat
  | .null | .boolean _ | .number _ | .string _ => 0
  | .array items => depthOfItems items + 1
  | .object members => depthOfMembers members + 1

/-- The depth of the deepest item. -/
def depthOfItems : List Value → Nat
  | [] => 0
  | item :: rest => max item.depth (depthOfItems rest)

/-- The depth of the deepest member. -/
def depthOfMembers : List (String × Value) → Nat
  | [] => 0
  | (_, value) :: rest => max value.depth (depthOfMembers rest)
end

/-- There is room for an array exactly if there is room for its items inside of it. -/
theorem depth_array_le_iff {items : List Value} {room : Nat} :
    (Value.array items).depth ≤ room + 1 ↔ ∀ item ∈ items, item.depth ≤ room := by
  rw [Value.depth, Nat.add_le_add_iff_right]
  induction items with
  | nil => simp [depthOfItems]
  | cons item rest inductionHypothesis =>
    rw [depthOfItems, Nat.max_le, inductionHypothesis, List.forall_mem_cons]

/-- There is room for an object exactly if there is room for the values of its members inside of
it. -/
theorem depth_object_le_iff {members : List (String × Value)} {room : Nat} :
    (Value.object members).depth ≤ room + 1 ↔ ∀ member ∈ members, member.2.depth ≤ room := by
  rw [Value.depth, Nat.add_le_add_iff_right]
  induction members with
  | nil => simp [depthOfMembers]
  | cons member rest inductionHypothesis =>
    rw [depthOfMembers, Nat.max_le, inductionHypothesis, List.forall_mem_cons]

mutual
/-- Whether a test holds of a value and of every part of it. -/
def Value.every (test : Value → Bool) : Value → Bool
  | .null => test .null
  | .boolean value => test (.boolean value)
  | .number value => test (.number value)
  | .string value => test (.string value)
  | .array items => test (.array items) && everyItem test items
  | .object members => test (.object members) && everyMember test members

/-- Whether a test holds of all parts of items. -/
def everyItem (test : Value → Bool) : List Value → Bool
  | [] => true
  | item :: rest => item.every test && everyItem test rest

/-- Whether a test holds of all parts of the values of members. -/
def everyMember (test : Value → Bool) : List (String × Value) → Bool
  | [] => true
  | (_, value) :: rest => value.every test && everyMember test rest
end

/-- A test holds of all parts of an array if it holds of the array and of those of each item. -/
theorem every_array {test : Value → Bool} {items : List Value} :
    (Value.array items).every test = true ↔
      test (.array items) = true ∧ ∀ item ∈ items, item.every test = true := by
  have each : everyItem test items = true ↔ ∀ item ∈ items, item.every test = true := by
    induction items with
    | nil => simp [everyItem]
    | cons item rest inductionHypothesis => simp [everyItem, inductionHypothesis]
  rw [Value.every, Bool.and_eq_true, each]

/-- A test holds of all parts of an object if it holds of the object and of those of the value of
each member. -/
theorem every_object {test : Value → Bool} {members : List (String × Value)} :
    (Value.object members).every test = true ↔
      test (.object members) = true ∧ ∀ member ∈ members, member.2.every test = true := by
  have each : everyMember test members = true ↔ ∀ member ∈ members, member.2.every test = true := by
    induction members with
    | nil => simp [everyMember]
    | cons member rest inductionHypothesis => simp [everyMember, inductionHypothesis]
  rw [Value.every, Bool.and_eq_true, each]

/-- A value that is no floating point number. -/
def notFloat : Value → Bool
  | .number (.float _ _) => false
  | _ => true

/-- A value all of whose numbers are integers. -/
def Value.isIntegral (value : Value) : Bool :=
  value.every notFloat

/-- Whether members are those of an object that is read as an enclosure. -/
def beginsEnclosure : List (String × Value) → Bool
  | [] => false
  | (key, _) :: _ => key == enclosureKey

/-- A value that is not read as an enclosure. -/
def notEnclosure : Value → Bool
  | .object members => !beginsEnclosure members
  | _ => true

/-- An object that begins with another key than that of enclosures is not read as one. -/
theorem notEnclosure_object {key : String} (different : key ≠ enclosureKey) (value : Value)
    (rest : List (String × Value)) : notEnclosure (.object ((key, value) :: rest)) = true := by
  simp [notEnclosure, beginsEnclosure, different]

/-- A value no part of which is read as an enclosure. -/
def Value.isOpen (value : Value) : Bool :=
  value.every notEnclosure

/-- Members in ascending order of keys, one for each key. -/
def Ascending (members : List Member) : Prop :=
  members.Pairwise fun earlier later => earlier.1 < later.1

/-- A value in which the members of every object are in ascending order of keys. -/
inductive Value.Canonical : Value → Prop
  | null : Canonical .null
  | boolean (value : Bool) : Canonical (.boolean value)
  | number (value : Number) : Canonical (.number value)
  | string (value : String) : Canonical (.string value)
  | array {items : List Value} (all : ∀ item ∈ items, Canonical item) : Canonical (.array items)
  | object {members : List Member} (ascending : Ascending members)
      (all : ∀ member ∈ members, Canonical member.2) : Canonical (.object members)

/-- A member whose key is greater than all others comes last. -/
theorem insertMember_of_greatest {key : String} (value : Value) {members : List Member}
    (greatest : ∀ member ∈ members, member.1 < key) :
    insertMember key value members = members ++ [(key, value)] := by
  induction members with
  | nil => rfl
  | cons first rest inductionHypothesis =>
    have less := greatest first List.mem_cons_self
    rw [insertMember, if_neg (not_lt_of_gt less), if_neg (ne_of_gt less),
      inductionHypothesis fun member later => greatest member (List.mem_cons_of_mem _ later)]
    rfl

/-- What an insertion leaves was there before or is inserted. -/
theorem mem_insertMember {key : String} {value : Value} {members : List Member} {member : Member}
    (belongs : member ∈ insertMember key value members) :
    member = (key, value) ∨ member ∈ members := by
  induction members with
  | nil => exact .inl (List.mem_singleton.mp belongs)
  | cons first rest inductionHypothesis =>
    simp only [insertMember] at belongs
    split at belongs
    · exact List.mem_cons.mp belongs
    · split at belongs
      · exact (List.mem_cons.mp belongs).imp_right (List.mem_cons_of_mem _)
      · rcases List.mem_cons.mp belongs with same | later
        · exact .inr (same ▸ List.mem_cons_self)
        · exact (inductionHypothesis later).imp_right (List.mem_cons_of_mem _)

/-- Members in ascending order are so after an insertion. -/
theorem Ascending.insertMember {members : List Member} (ascending : Ascending members)
    (key : String) (value : Value) : Ascending (insertMember key value members) := by
  induction members with
  | nil => exact List.pairwise_singleton _ _
  | cons first rest inductionHypothesis =>
    obtain ⟨least, others⟩ := List.pairwise_cons.mp ascending
    simp only [Json.insertMember]
    split
    · next less =>
      refine List.pairwise_cons.mpr ⟨fun member belongs => ?_, ascending⟩
      rcases List.mem_cons.mp belongs with rfl | later
      · exact less
      · exact lt_trans less (least member later)
    · next notLess =>
      split
      · next same => exact List.pairwise_cons.mpr ⟨same ▸ least, others⟩
      · next different =>
        refine List.pairwise_cons.mpr ⟨fun member belongs => ?_, inductionHypothesis others⟩
        rcases mem_insertMember belongs with rfl | earlier
        · exact lt_of_le_of_ne (not_lt.mp notLess) (Ne.symm different)
        · exact least member earlier

/-- Members that are in ascending order already are put behind each other. -/
theorem sortKeysMembers_append {done members : List Member} (ascending : Ascending (done ++ members))
    (still : ∀ member ∈ members, sortKeys member.2 = member.2) :
    sortKeysMembers done members = done ++ members := by
  induction members generalizing done with
  | nil => rw [sortKeysMembers, List.append_nil]
  | cons first rest inductionHypothesis =>
    obtain ⟨key, value⟩ := first
    have greatest : ∀ member ∈ done, member.1 < key := fun member belongs =>
      (List.pairwise_append.mp ascending).2.2 member belongs (key, value) List.mem_cons_self
    have same : sortKeys value = value := still (key, value) List.mem_cons_self
    rw [sortKeysMembers, same, insertMember_of_greatest value greatest, inductionHypothesis]
    · simp
    · simpa using ascending
    · exact fun member later => still member (List.mem_cons_of_mem _ later)

/-- Items are sorted one by one. -/
theorem sortKeysItems_eq (done items : List Value) :
    sortKeysItems done items = done.reverse ++ items.map sortKeys := by
  induction items generalizing done with
  | nil => rw [sortKeysItems, List.map_nil, List.append_nil]
  | cons item rest inductionHypothesis =>
    rw [sortKeysItems, inductionHypothesis]
    simp

/-- Sorting leaves a canonical value as it is. -/
theorem Value.Canonical.sortKeys_eq {value : Value} (canonical : value.Canonical) :
    sortKeys value = value := by
  induction canonical with
  | null => rfl
  | boolean value => rfl
  | number value => rfl
  | string value => rfl
  | array all inductionHypothesis =>
    rw [sortKeys, sortKeysItems_eq, List.map_congr_left inductionHypothesis]
    simp
  | object ascending all inductionHypothesis =>
    rw [sortKeys, sortKeysMembers_append (by simpa using ascending) inductionHypothesis]
    rfl

/-- The trees of items are made one by one. -/
theorem ofItems_eq (done : List Tree) (items : List Value) :
    Tree.ofItems done items = done.reverse ++ items.map Tree.ofValue := by
  induction items generalizing done with
  | nil => rw [Tree.ofItems, List.map_nil, List.append_nil]
  | cons item rest inductionHypothesis =>
    rw [Tree.ofItems, inductionHypothesis]
    simp

/-- The tree of a member. -/
def Tree.ofMember (member : String × Value) : Token String × Tree :=
  (⟨.ok member.1, none⟩, Tree.ofValue member.2)

/-- The trees of members are made one by one. -/
theorem ofMembers_eq (done : List (Token String × Tree)) (members : List (String × Value)) :
    Tree.ofMembers done members = done.reverse ++ members.map Tree.ofMember := by
  induction members generalizing done with
  | nil => rw [Tree.ofMembers, List.map_nil, List.append_nil]
  | cons member rest inductionHypothesis =>
    rw [Tree.ofMembers, inductionHypothesis]
    simp [Tree.ofMember]

/-- The tree of an array has the trees of its items. -/
@[simp] theorem ofValue_array (items : List Value) :
    Tree.ofValue (.array items) = .array (items.map Tree.ofValue) none := by
  rw [Tree.ofValue, ofItems_eq]
  rfl

/-- The tree of an object has the trees of its members. -/
@[simp] theorem ofValue_object (members : List (String × Value)) :
    Tree.ofValue (.object members) = .object (members.map Tree.ofMember) none := by
  rw [Tree.ofValue, ofMembers_eq]
  rfl

/-- Items are found in order exactly if each of them is. -/
theorem checkItems_eq_ok_iff {items : List Tree} :
    checkItems items = .ok () ↔ ∀ item ∈ items, item.check = .ok () := by
  induction items with
  | nil => simp [checkItems]
  | cons item rest inductionHypothesis =>
    rw [List.forall_mem_cons, ← inductionHypothesis, checkItems]
    cases item.check <;> simp

/-- Members are found in order exactly if the keys can be read and the values are in order. -/
theorem checkMembers_eq_ok_iff {members : List (Token String × Tree)} :
    checkMembers members = .ok () ↔
      ∀ member ∈ members, (∃ key, member.1.read = .ok key) ∧ member.2.check = .ok () := by
  induction members with
  | nil => simp [checkMembers]
  | cons member rest inductionHypothesis =>
    rw [List.forall_mem_cons, ← inductionHypothesis, checkMembers]
    cases member.1.read <;> cases member.2.check <;> simp

/-- An array is found in order exactly if its items are and it closes. -/
theorem check_array_iff {items : List Tree} {breach : Option Breach} :
    (Tree.array items breach).check = .ok () ↔
      (∀ item ∈ items, item.check = .ok ()) ∧ breach = none := by
  rw [← checkItems_eq_ok_iff, Tree.check]
  rcases checkItems items with fault | ⟨⟨⟩⟩ <;> cases breach <;> simp [raise?, bind, Except.bind]

/-- An object is found in order exactly if its members are and it closes. -/
theorem check_object_iff {members : List (Token String × Tree)} {breach : Option Breach} :
    (Tree.object members breach).check = .ok () ↔
      (∀ member ∈ members, (∃ key, member.1.read = .ok key) ∧ member.2.check = .ok ()) ∧
        breach = none := by
  rw [← checkMembers_eq_ok_iff, Tree.check]
  rcases checkMembers members with fault | ⟨⟨⟩⟩ <;> cases breach <;> simp [raise?, bind, Except.bind]

/-- The tree of a value is found in order. -/
theorem check_ofValue (value : Value) : (Tree.ofValue value).check = .ok () := by
  induction value using Value.induction with
  | null => rfl
  | boolean value => rfl
  | number value => rfl
  | string value => rfl
  | array items inductionHypothesis =>
    rw [ofValue_array, check_array_iff, List.forall_mem_map]
    exact ⟨inductionHypothesis, rfl⟩
  | object members inductionHypothesis =>
    rw [ofValue_object, check_object_iff, List.forall_mem_map]
    exact ⟨fun member belongs => ⟨⟨member.1, rfl⟩, inductionHypothesis member belongs⟩, rfl⟩

end GatedResolver.Json
