import GatedResolver.Proofs.Json.Untyped

/-!
# Readings that succeed agree

Where a tree comes from, and how many enclosures may be opened, decides only whether a value of any
kind is read from it, and never which one (`eq_of_valueWith`, `consistent_ofTextWithin`). What the
members of an object are read as is the sorted form of members that are read one by one
(`readMembers_eq_ok`).
-/

namespace GatedResolver.Json

/-- Two readers of texts read no two values from one text. -/
def Consistent (readLeft readRight : Bytes → Except Fault Value) : Prop :=
  ∀ {text left right}, readLeft text = .ok left → readRight text = .ok right → left = right

section Sources

variable {readLeft readRight : Bytes → Except Fault Value} {leftSource rightSource : Source}

/-- A tree is read as one value only, by two readers. -/
def Tree.ReadAlike (readLeft readRight : Bytes → Except Fault Value) (leftSource rightSource : Source)
    (tree : Tree) : Prop :=
  ∀ {left right}, tree.valueWith readLeft leftSource = .ok left →
    tree.valueWith readRight rightSource = .ok right → left = right

/-- Items are read alike if each of them is. -/
theorem eq_of_readItems {items : List Tree} {done leftValues rightValues : List Value}
    (each : ∀ item ∈ items, item.ReadAlike readLeft readRight leftSource rightSource)
    (left : readItems readLeft leftSource done items = .ok leftValues)
    (right : readItems readRight rightSource done items = .ok rightValues) :
    leftValues = rightValues := by
  induction items generalizing done with
  | nil =>
    cases left
    cases right
    rfl
  | cons item rest inductionHypothesis =>
    unfold readItems at left right
    split at left
    · cases left
    · next leftValue leftRead =>
      split at right
      · cases right
      · next rightValue rightRead =>
        cases each item List.mem_cons_self leftRead rightRead
        exact inductionHypothesis (fun other later => each other (List.mem_cons_of_mem _ later))
          left right

/-- Members are read alike if the value of each of them is. -/
theorem eq_of_readMembers {members : List (Token String × Tree)}
    {done leftValues rightValues : List Member}
    (each : ∀ member ∈ members, member.2.ReadAlike readLeft readRight leftSource rightSource)
    (left : readMembers readLeft leftSource done members = .ok leftValues)
    (right : readMembers readRight rightSource done members = .ok rightValues) :
    leftValues = rightValues := by
  induction members generalizing done with
  | nil =>
    cases left
    cases right
    rfl
  | cons member rest inductionHypothesis =>
    obtain ⟨token, tree⟩ := member
    unfold readMembers at left right
    cases keyRead : token.read with
    | error fault =>
      rw [keyRead] at left
      cases left
    | ok key =>
      rw [keyRead] at left right
      dsimp only at left right
      split at left
      · cases left
      · next leftValue leftRead =>
        split at right
        · cases right
        · next rightValue rightRead =>
          cases each (token, tree) List.mem_cons_self leftRead rightRead
          exact inductionHypothesis (fun other later => each other (List.mem_cons_of_mem _ later))
            left right

/-- A tree is read as one value only, if the texts of enclosed documents are. -/
theorem eq_of_valueWith (consistent : Consistent readLeft readRight) (tree : Tree) :
    tree.ReadAlike readLeft readRight leftSource rightSource := by
  intro left right leftRead rightRead
  induction tree using Tree.induction generalizing left right with
  | null | boolean =>
    cases leftRead
    cases rightRead
    rfl
  | number token | string token =>
    cases leftRead.symm.trans rightRead
    rfl
  | array items breach inductionHypothesis =>
    obtain ⟨leftValues, leftItems, rfl⟩ := ok_of_valueWith_array leftRead
    obtain ⟨rightValues, rightItems, rfl⟩ := ok_of_valueWith_array rightRead
    rw [eq_of_readItems inductionHypothesis leftItems rightItems]
  | object members breach inductionHypothesis =>
    rcases ok_of_valueWith_object leftRead with
      ⟨tree, text, encloses, named, leftInner, -⟩ | ⟨nothing, leftValues, leftMembers, rfl⟩ <;>
    rcases ok_of_valueWith_object rightRead with
      ⟨other, otherText, otherEncloses, otherNamed, rightInner, -⟩ |
        ⟨otherNothing, rightValues, rightMembers, rfl⟩
    · cases encloses.symm.trans otherEncloses
      cases named.symm.trans otherNamed
      exact consistent leftInner rightInner
    · cases encloses.symm.trans otherNothing
    · cases nothing.symm.trans otherEncloses
    · rw [eq_of_readMembers inductionHypothesis leftMembers rightMembers]
  | foreign | tooDeep | brokenWord | broken => cases leftRead

end Sources

/-- A text is read as one value only, however many enclosures may be opened. -/
theorem consistent_ofTextWithin (leftFuel rightFuel : Nat) :
    Consistent (Value.ofTextWithin leftFuel) (Value.ofTextWithin rightFuel) := by
  induction leftFuel generalizing rightFuel with
  | zero =>
    intro text left right leftRead
    cases leftRead
  | succ leftFuel inductionHypothesis =>
    intro text left right leftRead rightRead
    cases rightFuel with
    | zero => cases rightRead
    | succ rightFuel =>
      exact eq_of_valueWith (inductionHypothesis rightFuel) _ (ok_of_readWith leftRead).1
        (ok_of_readWith rightRead).1

/-- The reader of texts reads no other value than one that may open only so many enclosures. -/
theorem consistent_ofText (fuel : Nat) : Consistent Value.ofText (Value.ofTextWithin fuel) :=
  fun left right => consistent_ofTextWithin _ fuel left right

section Members

variable (readEnclosed : Bytes → Except Fault Value) (source : Source)

/-- What a value is read as, if it is read. -/
def Value.readAs (value : Value) : Value :=
  ((Tree.ofValue value).valueWith readEnclosed source).toOption.getD .null

/-- What members are read as, if they are read. -/
def membersReadAs (members : List Member) : List Member :=
  members.map fun member => (member.1, member.2.readAs readEnclosed source)

/-- The keys stay as they are. -/
theorem keys_membersReadAs (members : List Member) :
    (membersReadAs readEnclosed source members).map Prod.fst = members.map Prod.fst := by
  simp [membersReadAs]

/-- Each member is read on its own. -/
theorem membersReadAs_cons (key : String) (value : Value) (members : List Member) :
    membersReadAs readEnclosed source ((key, value) :: members) =
      (key, value.readAs readEnclosed source) :: membersReadAs readEnclosed source members :=
  rfl

/-- Members are read in two parts. -/
theorem membersReadAs_append (front back : List Member) :
    membersReadAs readEnclosed source (front ++ back) =
      membersReadAs readEnclosed source front ++ membersReadAs readEnclosed source back :=
  List.map_append

variable {readEnclosed} {source}

/-- Members are read as the sorted form of what they are read as one by one, if the values of
enclosed documents are canonical. -/
theorem readMembers_eq_ok {members done values : List Member}
    (read : readMembers readEnclosed source done (members.map Tree.ofMember) = .ok values)
    (encloses : ∀ text value, readEnclosed text = .ok value → value.Canonical) :
    (∀ member ∈ members, (Tree.ofValue member.2).valueWith readEnclosed source =
        .ok (member.2.readAs readEnclosed source)) ∧
      values = sortKeysMembers done (membersReadAs readEnclosed source members) := by
  induction members generalizing done with
  | nil =>
    cases read
    exact ⟨by simp, rfl⟩
  | cons member rest inductionHypothesis =>
    obtain ⟨key, value⟩ := member
    simp only [List.map_cons, Tree.ofMember, readMembers] at read
    split at read
    · cases read
    · next result valueRead =>
      obtain ⟨others, same⟩ := inductionHypothesis read
      have still := (canonical_of_valueWith encloses _ result valueRead).sortKeys_eq
      have made : value.readAs readEnclosed source = result := by
        rw [Value.readAs, valueRead]
        rfl
      refine ⟨List.forall_mem_cons.mpr ⟨by rw [valueRead, made], others⟩, ?_⟩
      rw [membersReadAs_cons, sortKeysMembers, made, still, same]

end Members

end GatedResolver.Json
