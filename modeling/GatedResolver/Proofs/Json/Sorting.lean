import GatedResolver.Proofs.Json.Rearrangement
import GatedResolver.Proofs.Text.ByteOrder

/-!
# Sorted values

A value is *sorted* if the keys of every object in it ascend in the order of their bytes. The
sorted form of a keyed value is the one rearrangement of it that is sorted (`eq_sortKeys_iff`). What
stands somewhere in the value stands there in the sorted form, sorted itself (`at?_sortKeys`).
-/

namespace GatedResolver.Json

section Order

/-- Whether the keys of an object ascend in the order of their bytes. -/
def keysAscend : Value → Bool
  | .object members =>
    decide (members.Pairwise fun earlier later => Text.utf8 earlier.1 < Text.utf8 later.1)
  | _ => true

/-- A value in which the keys of every object ascend in the order of their bytes. -/
def Value.isSorted (value : Value) : Bool :=
  value.every keysAscend

/-- The keys of an object ascend in the order of their bytes if its members do in that of their
keys. -/
theorem keysAscend_object {members : List Member} :
    keysAscend (.object members) = true ↔ Ascending members := by
  simp only [keysAscend, Text.utf8_lt_utf8_iff, decide_eq_true_eq, Ascending]

/-- A value is sorted exactly if it is canonical. -/
theorem Value.isSorted_iff {value : Value} : value.isSorted = true ↔ value.Canonical := by
  unfold Value.isSorted
  induction value using Value.induction with
  | null => exact iff_of_true rfl .null
  | boolean value => exact iff_of_true rfl (.boolean value)
  | number value => exact iff_of_true rfl (.number value)
  | string value => exact iff_of_true rfl (.string value)
  | array items inductionHypothesis =>
    rw [every_array]
    constructor
    · rintro ⟨-, each⟩
      exact .array fun item belongs => (inductionHypothesis item belongs).mp (each item belongs)
    · rintro ⟨⟩
      next all =>
        exact ⟨rfl, fun item belongs => (inductionHypothesis item belongs).mpr (all item belongs)⟩
  | object members inductionHypothesis =>
    rw [every_object, keysAscend_object]
    constructor
    · rintro ⟨ascending, each⟩
      exact .object ascending fun member belongs =>
        (inductionHypothesis member belongs).mp (each member belongs)
    · rintro ⟨⟩
      next ascending all =>
        exact ⟨ascending, fun member belongs =>
          (inductionHypothesis member belongs).mpr (all member belongs)⟩

/-- Sorted members were there before, or have the sorted form of a value. -/
theorem mem_sortKeysMembers {done : List Member} {members : List (String × Value)} {member : Member}
    (belongs : member ∈ sortKeysMembers done members) :
    member ∈ done ∨ ∃ origin ∈ members, member = (origin.1, sortKeys origin.2) := by
  induction members generalizing done with
  | nil => exact .inl belongs
  | cons first rest inductionHypothesis =>
    rw [sortKeysMembers] at belongs
    rcases inductionHypothesis belongs with early | ⟨origin, later, same⟩
    · rcases mem_insertMember early with same | before
      · exact .inr ⟨first, List.mem_cons_self, same⟩
      · exact .inl before
    · exact .inr ⟨origin, List.mem_cons_of_mem _ later, same⟩

/-- The sorted form of a value is canonical. -/
theorem canonical_sortKeys (value : Value) : (sortKeys value).Canonical := by
  induction value using Value.induction with
  | null => exact .null
  | boolean value => exact .boolean value
  | number value => exact .number value
  | string value => exact .string value
  | array items inductionHypothesis =>
    rw [sortKeys, sortKeysItems_eq]
    exact .array (List.forall_mem_map.mpr inductionHypothesis)
  | object members inductionHypothesis =>
    rw [sortKeys]
    refine .object (ascending_sortKeysMembers .nil members) fun member belongs => ?_
    rcases mem_sortKeysMembers belongs with early | ⟨origin, there, rfl⟩
    · cases early
    · exact inductionHypothesis origin there

/-- The sorted form of a keyed value is the one rearrangement of it that is sorted. -/
theorem eq_sortKeys_iff {value sorted : Value} (keyed : value.isKeyed = true) :
    sorted = sortKeys value ↔ value.Rearranged sorted ∧ sorted.isSorted = true := by
  constructor
  · rintro rfl
    exact ⟨rearranged_sortKeys keyed, Value.isSorted_iff.mpr (canonical_sortKeys value)⟩
  · rintro ⟨rearranged, isSorted⟩
    rw [rearranged.sortKeys_eq keyed, (Value.isSorted_iff.mp isSorted).sortKeys_eq]

end Order

section Places

/-- A step from a container to one of its parts. -/
inductive Step where
  | item (place : Nat)
  | member (key : String)

/-- The part of a value that a step leads to. -/
def Value.part? : Value → Step → Option Value
  | .array items, .item place => items[place]?
  | .object members, .member key => member? key members
  | _, _ => none

/-- What stands in a value behind some steps. -/
def Value.at? (value : Value) : List Step → Option Value
  | [] => some value
  | step :: steps => (value.part? step).bind fun part => part.at? steps

variable {value part : Value}

/-- Among members with different keys, their order does not matter to the value of a key. -/
theorem member?_reverse {members : List Member} (distinct : (members.map Prod.fst).Nodup)
    (key : String) : member? key members.reverse = member? key members := by
  have back : (members.reverse.map Prod.fst).Nodup := by
    rw [List.map_reverse]
    exact List.nodup_reverse.mpr distinct
  refine Option.ext fun value => ?_
  rw [member?_eq_some_iff back, member?_eq_some_iff distinct, List.mem_reverse]

/-- The parts of a keyed value are keyed. -/
theorem isKeyed_of_part? (keyed : value.isKeyed = true) {step : Step}
    (there : value.part? step = some part) : part.isKeyed = true := by
  cases value with
  | array items =>
    cases step with
    | item place => exact (every_array.mp keyed).2 part (List.mem_of_getElem? there)
    | member key => cases there
  | object members =>
    cases step with
    | item place => cases there
    | member key =>
      obtain ⟨distinct, each⟩ := every_object.mp keyed
      exact each _ ((member?_eq_some_iff (of_decide_eq_true distinct)).mp there)
  | _ => cases step <;> cases there

/-- The parts of a sorted form are the sorted forms of the parts. -/
theorem part?_sortKeys (keyed : value.isKeyed = true) (step : Step) :
    (sortKeys value).part? step = (value.part? step).map sortKeys := by
  cases value with
  | array items =>
    rw [sortKeys, sortKeysItems_eq]
    cases step with
    | item place => exact List.getElem?_map
    | member key => rfl
  | object members =>
    rw [sortKeys]
    cases step with
    | item place => rfl
    | member key =>
      -- Of two members with one key the later one would win here, and the earlier one in the value.
      have distinct := of_decide_eq_true (every_object.mp keyed).1
      simp only [Value.part?, member?_sortKeysMembers, member?_reverse distinct, member?,
        Option.or_none]
  | _ => rfl

/-- What stands somewhere in a keyed value is keyed. -/
theorem isKeyed_of_at? (keyed : value.isKeyed = true) {steps : List Step}
    (there : value.at? steps = some part) : part.isKeyed = true := by
  induction steps generalizing value with
  | nil =>
    cases there
    exact keyed
  | cons step steps inductionHypothesis =>
    obtain ⟨between, first, others⟩ := Option.bind_eq_some_iff.mp there
    exact inductionHypothesis (isKeyed_of_part? keyed first) others

/-- In the sorted form of a keyed value everything stands where it did, sorted itself. -/
theorem at?_sortKeys (keyed : value.isKeyed = true) (steps : List Step) :
    (sortKeys value).at? steps = (value.at? steps).map sortKeys := by
  induction steps generalizing value with
  | nil => rfl
  | cons step steps inductionHypothesis =>
    rw [Value.at?, Value.at?, part?_sortKeys keyed]
    cases there : value.part? step with
    | none => rfl
    | some part => exact inductionHypothesis (isKeyed_of_part? keyed there)

/-- What sorting makes of a value from what it makes of its parts. The items of an array keep their
order, the members of an object get another one, and all else stays as it is. -/
inductive SortsTo : Value → Value → Prop
  | null : SortsTo .null .null
  | boolean (value : Bool) : SortsTo (.boolean value) (.boolean value)
  | number (value : Number) : SortsTo (.number value) (.number value)
  | string (value : String) : SortsTo (.string value) (.string value)
  | array (items : List Value) : SortsTo (.array items) (.array (items.map sortKeys))
  | object {members : List (String × Value)} {sorted : List Member}
      (order : sorted.Perm (members.map fun member => (member.1, sortKeys member.2))) :
      SortsTo (.object members) (.object sorted)

/-- No item and no member of a keyed value gets lost or is added when it is sorted. -/
theorem sortsTo_sortKeys (keyed : value.isKeyed = true) : SortsTo value (sortKeys value) := by
  cases value with
  | null => exact .null
  | boolean value => exact .boolean value
  | number value => exact .number value
  | string value => exact .string value
  | array items =>
    rw [sortKeys, sortKeysItems_eq]
    exact .array items
  | object members =>
    rw [sortKeys]
    exact .object (perm_sortKeysMembers [] members (of_decide_eq_true (every_object.mp keyed).1))

end Places

/-- The sorted form of a keyed value is sorted, and the only rearrangement of the value that is.
Everything stands where it stood, with no item and no member lost or added, at every depth. Sorting
it again changes nothing, and another keyed value has the same sorted form exactly if it is a
rearrangement. -/
theorem sortKeys_sorts {value : Value} (keyed : value.isKeyed = true) :
    (sortKeys value).isSorted = true ∧
    (∀ sorted, sorted = sortKeys value ↔ value.Rearranged sorted ∧ sorted.isSorted = true) ∧
    (∀ steps, (sortKeys value).at? steps = (value.at? steps).map sortKeys) ∧
    (∀ steps part, value.at? steps = some part →
      (sortKeys value).at? steps = some (sortKeys part) ∧ SortsTo part (sortKeys part)) ∧
    sortKeys (sortKeys value) = sortKeys value ∧
    (∀ other : Value, other.isKeyed = true →
      (sortKeys value = sortKeys other ↔ value.Rearranged other)) := by
  refine ⟨Value.isSorted_iff.mpr (canonical_sortKeys value), fun sorted => eq_sortKeys_iff keyed,
    at?_sortKeys keyed, ?parts, (canonical_sortKeys value).sortKeys_eq,
    fun other otherKeyed => sortKeys_eq_iff keyed otherKeyed⟩
  case parts =>
    intro steps part there
    rw [at?_sortKeys keyed, there]
    exact ⟨rfl, sortsTo_sortKeys (isKeyed_of_at? keyed there)⟩

/-- An object in an array in an object, and the same with all members in another order, have one
sorted form, in which a key behind the Latin letters comes last. -/
theorem sortKeys_sorts_nested :
    let inner : Value := .object [("d", .null), ("c", .boolean true)]
    let value : Value := .object [("é", .array [inner, .null]), ("z", .null)]
    let other : Value :=
      .object [("z", .null), ("é", .array [.object [("c", .boolean true), ("d", .null)], .null])]
    value.isKeyed = true ∧ other.isKeyed = true ∧
      value.at? [.member "é", .item 0] = some inner ∧
      (sortKeys value).at? [.member "é", .item 0] = some (sortKeys inner) ∧
      SortsTo inner (sortKeys inner) ∧ sortKeys value = other ∧ other.isSorted = true ∧
      value.Rearranged other := by
  intro inner value other
  have keyed : value.isKeyed = true := by decide
  have otherKeyed : other.isKeyed = true := by decide
  have there : value.at? [.member "é", .item 0] = some inner := by decide
  have same : sortKeys value = other := by decide
  have still : sortKeys other = other := by decide
  obtain ⟨sorted, -, -, parts, -, rearranged⟩ := sortKeys_sorts keyed
  obtain ⟨found, sorts⟩ := parts _ _ there
  exact ⟨keyed, otherKeyed, there, found, sorts, same, same ▸ sorted,
    (rearranged other otherKeyed).mp (same.trans still.symm)⟩

end GatedResolver.Json
