import GatedResolver.Proofs.Json.Values
import Mathlib.Data.List.Nodup

/-!
# Values equal up to the order of members

Two values are *rearranged* if one becomes the other by putting members of objects in it, at any
depth, into another order. A value is *keyed* if no object in it has two members of one key; keys
of such values can be sorted without loss. The sorted form of a keyed value is a rearrangement of
it, and the same for all rearrangements (`sortKeys_eq_iff`), so it represents them. Of members with
one key the sorted form has the last one (`member?_sortKeysMembers`).
-/

namespace GatedResolver.Json

/-- A value becomes another one by putting members of objects in it into another order. -/
inductive Value.Rearranged : Value → Value → Prop
  | refl (value : Value) : Rearranged value value
  | members {left right : List (String × Value)} (order : left.Perm right) :
      Rearranged (.object left) (.object right)
  | item {left right : Value} (front back : List Value) (part : Rearranged left right) :
      Rearranged (.array (front ++ left :: back)) (.array (front ++ right :: back))
  | member {left right : Value} (front back : List (String × Value)) (key : String)
      (part : Rearranged left right) :
      Rearranged (.object (front ++ (key, left) :: back)) (.object (front ++ (key, right) :: back))
  | trans {first second third : Value} (before : Rearranged first second)
      (after : Rearranged second third) : Rearranged first third

/-- Whether the members of an object have different keys. -/
def distinctKeys : Value → Bool
  | .object members => decide (members.map Prod.fst).Nodup
  | _ => true

/-- A value no object in which has two members of one key. -/
def Value.isKeyed (value : Value) : Bool :=
  value.every distinctKeys

section Relation

/-- What is rearranged can be put back. -/
theorem Value.Rearranged.symm {left right : Value} (rearranged : left.Rearranged right) :
    right.Rearranged left := by
  induction rearranged with
  | refl value => exact .refl value
  | members order => exact .members order.symm
  | item front back part inductionHypothesis => exact .item front back inductionHypothesis
  | member front back key part inductionHypothesis => exact .member front back key inductionHypothesis
  | trans before after beforeBack afterBack => exact .trans afterBack beforeBack

/-- Rearranged values are keyed together. -/
theorem Value.Rearranged.isKeyed_iff {left right : Value} (rearranged : left.Rearranged right) :
    left.isKeyed = true ↔ right.isKeyed = true := by
  unfold Value.isKeyed
  induction rearranged with
  | refl value => rfl
  | members order =>
    rw [every_object, every_object]
    simp only [distinctKeys, decide_eq_true_eq, (order.map Prod.fst).nodup_iff, order.mem_iff]
  | item front back part inductionHypothesis =>
    rw [every_array, every_array]
    simp only [distinctKeys, List.forall_mem_append, List.forall_mem_cons, inductionHypothesis]
  | member front back key part inductionHypothesis =>
    rw [every_object, every_object]
    simp only [distinctKeys, List.forall_mem_append, List.forall_mem_cons, List.map_append,
      List.map_cons, inductionHypothesis]
  | trans before after beforeKeyed afterKeyed => exact beforeKeyed.trans afterKeyed

/-- Items that are rearranged one by one rearrange their array. -/
theorem rearranged_array {change : Value → Value} (front : List Value) {items : List Value}
    (each : ∀ item ∈ items, item.Rearranged (change item)) :
    (Value.array (front ++ items)).Rearranged (.array (front ++ items.map change)) := by
  induction items generalizing front with
  | nil => exact .refl _
  | cons item rest inductionHypothesis =>
    have first : (Value.array (front ++ item :: rest)).Rearranged
        (.array (front ++ change item :: rest)) := .item front rest (each item List.mem_cons_self)
    have others := inductionHypothesis (front ++ [change item])
      fun other later => each other (List.mem_cons_of_mem _ later)
    simp only [List.append_assoc, List.singleton_append] at others
    exact first.trans others

/-- Values of members that are rearranged one by one rearrange their object. -/
theorem rearranged_object {change : Value → Value} (front : List (String × Value))
    {members : List (String × Value)}
    (each : ∀ member ∈ members, member.2.Rearranged (change member.2)) :
    (Value.object (front ++ members)).Rearranged
      (.object (front ++ members.map fun member => (member.1, change member.2))) := by
  induction members generalizing front with
  | nil => exact .refl _
  | cons member rest inductionHypothesis =>
    have first : (Value.object (front ++ member :: rest)).Rearranged
        (.object (front ++ (member.1, change member.2) :: rest)) :=
      .member front rest member.1 (each member List.mem_cons_self)
    have others := inductionHypothesis (front ++ [(member.1, change member.2)])
      fun other later => each other (List.mem_cons_of_mem _ later)
    simp only [List.append_assoc, List.singleton_append] at others
    exact first.trans others

end Relation

section Sorting

/-- A member with a new key is added to the others. -/
theorem perm_insertMember {key : String} (value : Value) {members : List Member}
    (unknown : key ∉ members.map Prod.fst) :
    (insertMember key value members).Perm ((key, value) :: members) := by
  induction members with
  | nil => exact .refl _
  | cons first rest inductionHypothesis =>
    rw [List.map_cons, List.mem_cons, not_or] at unknown
    obtain ⟨different, later⟩ := unknown
    rw [insertMember, if_neg different]
    split
    · exact .refl _
    · exact ((inductionHypothesis later).cons first).trans (.swap _ _ _)

/-- Members with different keys are put into their places one by one, and no one gets lost. -/
theorem perm_sortKeysMembers (done : List Member) (members : List (String × Value))
    (distinct : ((done ++ members).map Prod.fst).Nodup) :
    (sortKeysMembers done members).Perm
      (done ++ members.map fun member => (member.1, sortKeys member.2)) := by
  induction members generalizing done with
  | nil => rw [sortKeysMembers, List.map_nil, List.append_nil]
  | cons member rest inductionHypothesis =>
    obtain ⟨key, value⟩ := member
    have unknown : key ∉ done.map Prod.fst := by
      intro known
      rw [List.map_append, List.nodup_append] at distinct
      exact distinct.2.2 key known key (List.mem_cons_self) rfl
    have placed := perm_insertMember (sortKeys value) unknown
    have still : ((insertMember key (sortKeys value) done ++ rest).map Prod.fst).Nodup := by
      have order := (placed.append_right rest).trans List.perm_middle.symm
      rw [(order.map Prod.fst).nodup_iff]
      simpa using distinct
    rw [sortKeysMembers]
    exact (inductionHypothesis _ still).trans
      ((placed.append_right _).trans List.perm_middle.symm)

/-- Members are in ascending order when they are sorted. -/
theorem ascending_sortKeysMembers {done : List Member} (ascending : Ascending done)
    (members : List (String × Value)) : Ascending (sortKeysMembers done members) := by
  induction members generalizing done with
  | nil => exact ascending
  | cons member rest inductionHypothesis =>
    rw [sortKeysMembers]
    exact inductionHypothesis (ascending.insertMember _ _)

/-- Members in ascending order have one order only. -/
theorem Ascending.eq_of_perm {left right : List Member} (leftAscending : Ascending left)
    (rightAscending : Ascending right) (order : left.Perm right) : left = right :=
  order.eq_of_pairwise (fun _ _ _ _ less greater => absurd greater (not_lt_of_gt less))
    leftAscending rightAscending

/-- Members in ascending order have different keys. -/
theorem Ascending.nodup_keys {members : List Member} (ascending : Ascending members) :
    (members.map Prod.fst).Nodup :=
  List.pairwise_map.mpr (ascending.imp fun less => ne_of_lt less)

/-- Canonical members in ascending order are what sorting makes of them from any other order. -/
theorem Ascending.sortKeysMembers_of_perm {members order : List Member}
    (ascending : Ascending members) (canonical : ∀ member ∈ members, member.2.Canonical)
    (permuted : members.Perm order) : sortKeysMembers [] order = members := by
  have still : (order.map fun member => (member.1, sortKeys member.2)) = order := by
    refine (List.map_congr_left fun member belongs => ?_).trans (List.map_id order)
    rw [(canonical member (permuted.mem_iff.mpr belongs)).sortKeys_eq, id]
  have distinct := (permuted.map Prod.fst).nodup_iff.mp ascending.nodup_keys
  have sorted := perm_sortKeysMembers [] order distinct
  rw [still] at sorted
  exact (ascending_sortKeysMembers .nil order).eq_of_perm ascending (sorted.trans permuted.symm)

/-- A keyed value is a rearrangement of its sorted form. -/
theorem rearranged_sortKeys {value : Value} (keyed : value.isKeyed = true) :
    value.Rearranged (sortKeys value) := by
  induction value using Value.induction with
  | null => exact .refl _
  | boolean value => exact .refl _
  | number value => exact .refl _
  | string value => exact .refl _
  | array items inductionHypothesis =>
    have each := (every_array.mp keyed).2
    rw [sortKeys, sortKeysItems_eq]
    exact rearranged_array [] fun item belongs => inductionHypothesis item belongs (each item belongs)
  | object members inductionHypothesis =>
    obtain ⟨distinct, each⟩ := every_object.mp keyed
    have sorted := perm_sortKeysMembers [] members (of_decide_eq_true distinct)
    rw [sortKeys]
    refine (rearranged_object [] fun member belongs =>
      inductionHypothesis member belongs (each member belongs)).trans (.members sorted.symm)

/-- Rearranged members of one object have one sorted form. -/
theorem sortKeys_object_of_perm {left right : List (String × Value)}
    (distinct : (left.map Prod.fst).Nodup) (order : left.Perm right) :
    sortKeys (.object left) = sortKeys (.object right) := by
  have leftSorted := perm_sortKeysMembers [] left distinct
  have rightSorted := perm_sortKeysMembers [] right ((order.map Prod.fst).nodup_iff.mp distinct)
  rw [sortKeys, sortKeys, (ascending_sortKeysMembers .nil left).eq_of_perm
    (ascending_sortKeysMembers .nil right)]
  exact leftSorted.trans ((order.map _).trans rightSorted.symm)

/-- Members are sorted by their keys and the sorted forms of their values. -/
theorem sortKeysMembers_congr {members others : List (String × Value)} (done : List Member)
    (same : members.map (fun member => (member.1, sortKeys member.2)) =
      others.map fun member => (member.1, sortKeys member.2)) :
    sortKeysMembers done members = sortKeysMembers done others := by
  induction members generalizing others done with
  | nil => rw [List.map_eq_nil_iff.mp same.symm]
  | cons member rest inductionHypothesis =>
    obtain ⟨other, others, rfl, first, remaining⟩ := List.map_eq_cons_iff.mp same.symm
    obtain ⟨sameKey, sameValue⟩ := Prod.mk.inj first
    rw [sortKeysMembers, sortKeysMembers, sameKey, sameValue]
    exact inductionHypothesis _ remaining.symm

/-- A keyed value has the sorted form of its rearrangements. -/
theorem Value.Rearranged.sortKeys_eq {left right : Value} (rearranged : left.Rearranged right)
    (keyed : left.isKeyed = true) : sortKeys left = sortKeys right := by
  induction rearranged with
  | refl value => rfl
  | members order => exact sortKeys_object_of_perm (of_decide_eq_true (every_object.mp keyed).1) order
  | item front back part inductionHypothesis =>
    have here := (every_array.mp keyed).2 _ (List.mem_append_right _ List.mem_cons_self)
    simp only [sortKeys, sortKeysItems_eq, List.map_append, List.map_cons, inductionHypothesis here]
  | member front back key part inductionHypothesis =>
    have here := (every_object.mp keyed).2 _ (List.mem_append_right _ List.mem_cons_self)
    rw [sortKeys, sortKeys, sortKeysMembers_congr []]
    simp only [List.map_append, List.map_cons, inductionHypothesis here]
  | trans before after beforeEqual afterEqual =>
    exact (beforeEqual keyed).trans (afterEqual (before.isKeyed_iff.mp keyed))

/-- Keyed values have one sorted form exactly if they are rearrangements of each other. -/
theorem sortKeys_eq_iff {left right : Value} (leftKeyed : left.isKeyed = true)
    (rightKeyed : right.isKeyed = true) : sortKeys left = sortKeys right ↔ left.Rearranged right := by
  constructor
  · intro same
    have there := rearranged_sortKeys leftKeyed
    rw [same] at there
    exact there.trans (rearranged_sortKeys rightKeyed).symm
  · intro rearranged
    exact rearranged.sortKeys_eq leftKeyed

end Sorting

section Lookup

variable {key : String} {value : Value}

/-- The value of a key is that among the first members, and else that among the others. -/
theorem member?_append (key : String) (front back : List Member) :
    member? key (front ++ back) = (member? key front).or (member? key back) := by
  induction front with
  | nil => rfl
  | cons member rest inductionHypothesis =>
    rw [List.cons_append, member?, member?]
    split
    · rfl
    · exact inductionHypothesis

/-- Exactly the keys that no member has have no value. -/
theorem member?_eq_none_iff {members : List Member} :
    member? key members = none ↔ key ∉ members.map Prod.fst := by
  induction members with
  | nil => simp [member?]
  | cons member rest inductionHypothesis =>
    rw [member?, List.map_cons, List.mem_cons, not_or, ← inductionHypothesis]
    split
    · next same => simp [same]
    · next different => simp [different]

/-- Among members with different keys, the value of a key is that of the member with the key. -/
theorem member?_eq_some_iff {members : List Member} (distinct : (members.map Prod.fst).Nodup) :
    member? key members = some value ↔ (key, value) ∈ members := by
  induction members with
  | nil => simp [member?]
  | cons member rest inductionHypothesis =>
    obtain ⟨other, found⟩ := member
    obtain ⟨unknown, others⟩ := List.nodup_cons.mp distinct
    rw [member?]
    split
    · next same =>
      subst same
      have later : (key, value) ∉ rest := fun belongs =>
        unknown (List.mem_map.mpr ⟨_, belongs, rfl⟩)
      simp [later, eq_comm]
    · next different => simp [inductionHypothesis others, different]

/-- A member that is set has its value, and the others keep theirs. -/
theorem member?_insertMember (key : String) (other : String) (value : Value)
    (members : List Member) :
    member? key (insertMember other value members) =
      if key = other then some value else member? key members := by
  induction members with
  | nil => rfl
  | cons first rest inductionHypothesis =>
    rw [insertMember]
    split
    · rw [member?]
    · split
      · next same => rw [member?, member?, same]; split <;> rfl
      · next different =>
        rw [member?, member?, inductionHypothesis]
        split
        · next found => rw [if_neg (found ▸ Ne.symm different)]
        · rfl

/-- Of several members with one key the last one counts when members are sorted, and it has the
sorted form of its value. -/
theorem member?_sortKeysMembers (key : String) (done members : List Member) :
    member? key (sortKeysMembers done members) =
      ((member? key members.reverse).map sortKeys).or (member? key done) := by
  induction members generalizing done with
  | nil => rfl
  | cons member rest inductionHypothesis =>
    rw [sortKeysMembers, inductionHypothesis, member?_insertMember, List.reverse_cons,
      member?_append, member?, member?]
    split <;> cases member? key rest.reverse <;> rfl

/-- Members with different keys, and with the same value for each key, differ in their order
only. -/
theorem perm_of_member?_eq {left right : List Member} (leftDistinct : (left.map Prod.fst).Nodup)
    (rightDistinct : (right.map Prod.fst).Nodup)
    (same : ∀ key, member? key left = member? key right) : left.Perm right := by
  refine (List.perm_ext_iff_of_nodup (List.Nodup.of_map _ leftDistinct)
    (List.Nodup.of_map _ rightDistinct)).mpr ?_
  rintro ⟨key, value⟩
  rw [← member?_eq_some_iff leftDistinct, same, member?_eq_some_iff rightDistinct]

end Lookup

end GatedResolver.Json
