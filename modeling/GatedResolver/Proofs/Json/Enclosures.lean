import GatedResolver.Proofs.Json.Records
import Mathlib.Data.List.Forall2

/-!
# Enclosures are not read back

What a reader makes of an enclosure is the value of the enclosed document, and never an object whose
only key is that of enclosures. So an object that begins with this key is not read as itself: of
the canonical values, only the open ones are.
-/

namespace GatedResolver.Json

variable {readEnclosed : Bytes → Except Fault Value} {source : Source}

/-- An insertion keeps the keys and adds its own. -/
theorem mem_keys_insertMember {key known : String} {value : Value} {members : List Member} :
    known ∈ (insertMember key value members).map Prod.fst ↔
      known = key ∨ known ∈ members.map Prod.fst := by
  induction members with
  | nil => simp [insertMember]
  | cons first rest inductionHypothesis =>
    rw [insertMember]
    split
    · simp
    · split
      · next same => simp [same]
      · rw [List.map_cons, List.mem_cons, inductionHypothesis, List.map_cons, List.mem_cons]
        exact or_left_comm

/-- Keys that were read before remain. -/
theorem mem_keys_readMembers {members : List (Token String × Tree)} {done values : List Member}
    (read : readMembers readEnclosed source done members = .ok values) {known : String}
    (before : known ∈ done.map Prod.fst) : known ∈ values.map Prod.fst := by
  induction members generalizing done with
  | nil =>
    cases read
    exact before
  | cons member rest inductionHypothesis =>
    obtain ⟨token, tree⟩ := member
    unfold readMembers at read
    split at read
    · cases read
    · next name keyRead =>
      split at read
      · cases read
      · exact inductionHypothesis read (mem_keys_insertMember.mpr (.inr before))

/-- The first key of an object is read. -/
theorem head_key_readMembers {token : Token String} {tree : Tree}
    {members : List (Token String × Tree)} {values : List Member}
    (read : readMembers readEnclosed source [] ((token, tree) :: members) = .ok values) :
    ∃ key ∈ values.map Prod.fst, token.read = .ok key := by
  unfold readMembers at read
  split at read
  · cases read
  · next name keyRead =>
    split at read
    · cases read
    · exact ⟨name, mem_keys_readMembers read (mem_keys_insertMember.mpr (.inl rfl)), keyRead⟩

/-- A reader of enclosed documents that never gives an object whose only key is that of
enclosures. -/
def Unwraps (readEnclosed : Bytes → Except Fault Value) : Prop :=
  ∀ {text value}, readEnclosed text = .ok value → ∀ inner, value ≠ .object [(enclosureKey, inner)]

/-- No object whose only key is that of enclosures is read from a tree, if none is read from
enclosed documents. -/
theorem ne_enclosure_of_valueWith (unwraps : Unwraps readEnclosed)
    {tree : Tree} {value : Value} (read : tree.valueWith readEnclosed source = .ok value)
    (inner : Value) : value ≠ .object [(enclosureKey, inner)] := by
  rintro rfl
  match tree with
  | .null | .boolean _ | .foreign _ | .tooDeep _ _ | .brokenWord _ _ | .broken _ => cases read
  | .number token =>
    obtain ⟨number, -, same⟩ := ok_of_map read
    cases same
  | .string token =>
    obtain ⟨text, -, same⟩ := ok_of_map read
    cases same
  | .array items breach =>
    obtain ⟨values, -, same⟩ := ok_of_valueWith_array read
    cases same
  | .object members breach =>
    rcases ok_of_valueWith_object read with
      ⟨-, text, -, -, innerRead, -⟩ | ⟨nothing, values, membersRead, same⟩
    · exact unwraps innerRead inner rfl
    · cases same
      match members with
      | [] => cases membersRead
      | (token, tree) :: rest =>
        obtain ⟨key, belongs, keyRead⟩ := head_key_readMembers membersRead
        obtain rfl : key = enclosureKey := by simpa using belongs
        simp [enclosed?, keyRead] at nothing

/-- No object whose only key is that of enclosures is read from a text, however deep its documents
enclose each other. -/
theorem unwraps_ofTextWithin (fuel : Nat) : Unwraps (Value.ofTextWithin fuel) := by
  intro text value read
  induction fuel generalizing text value with
  | zero => cases read
  | succ fuel inductionHypothesis =>
    exact ne_enclosure_of_valueWith inductionHypothesis (ok_of_readWith read).1

/-- Items that are read are read one by one. -/
theorem forall₂_of_readItems {items : List Tree} {done values : List Value}
    (read : readItems readEnclosed source done items = .ok values) :
    ∃ taken, values = done.reverse ++ taken ∧
      List.Forall₂ (fun item value => item.valueWith readEnclosed source = .ok value) items taken := by
  induction items generalizing done with
  | nil =>
    cases read
    exact ⟨[], by simp, .nil⟩
  | cons item rest inductionHypothesis =>
    unfold readItems at read
    split at read
    · cases read
    · next value valueRead =>
      obtain ⟨taken, rfl, each⟩ := inductionHypothesis read
      exact ⟨value :: taken, by simp, .cons valueRead each⟩

/-- Members in ascending order that are read are read one by one. -/
theorem forall₂_of_readMembers {members : List Member} {done values : List Member}
    (ascending : ((done ++ members).map Prod.fst).Pairwise (· < ·))
    (read : readMembers readEnclosed source done (members.map Tree.ofMember) = .ok values) :
    ∃ taken, values = done ++ taken ∧
      List.Forall₂ (fun member value =>
        (Tree.ofValue member.2).valueWith readEnclosed source = .ok value.2) members taken := by
  induction members generalizing done with
  | nil =>
    cases read
    exact ⟨[], by simp, .nil⟩
  | cons member rest inductionHypothesis =>
    obtain ⟨key, written⟩ := member
    simp only [List.map_cons, Tree.ofMember, readMembers] at read
    split at read
    · cases read
    · next value valueRead =>
      have greatest : ∀ member ∈ done, member.1 < key := by
        intro member belongs
        rw [List.map_append] at ascending
        exact (List.pairwise_append.mp ascending).2.2 member.1 (List.mem_map_of_mem belongs) key
          (by simp)
      rw [insertMember_of_greatest value greatest] at read
      obtain ⟨taken, rfl, each⟩ := inductionHypothesis (by simpa using ascending) read
      exact ⟨(key, value) :: taken, by simp, .cons valueRead each⟩

/-- Members in ascending order that are read as themselves are read so one by one. -/
theorem valueWith_of_readMembers {members : List Member} (ascending : Ascending members)
    (read : readMembers readEnclosed source [] (members.map Tree.ofMember) = .ok members) :
    ∀ member ∈ members, (Tree.ofValue member.2).valueWith readEnclosed source = .ok member.2 := by
  have keys : (([] ++ members).map Prod.fst).Pairwise (· < ·) := List.pairwise_map.mpr ascending
  obtain ⟨taken, same, each⟩ := forall₂_of_readMembers keys read
  obtain rfl : members = taken := same
  exact List.forall₂_same.mp each

/-- An object that begins with the key of enclosures is not read as itself. -/
theorem beginsEnclosure_of_valueWith (unwraps : Unwraps readEnclosed) {members : List Member}
    (read : (Tree.ofValue (.object members)).valueWith readEnclosed source = .ok (.object members)) :
    beginsEnclosure members = false := by
  by_contra begins
  match members with
  | [] => simp [beginsEnclosure] at begins
  | (key, first) :: rest =>
    obtain rfl : key = enclosureKey := by simpa [beginsEnclosure] using begins
    have found : enclosed? (((enclosureKey, first) :: rest).map Tree.ofMember) =
        some (Tree.ofValue first) := by simp [enclosed?, Tree.ofMember]
    rw [ofValue_object, Tree.valueWith, found] at read
    obtain ⟨text, -, opened⟩ := ok_of_bind read
    obtain ⟨enclosed, enclosedRead, last⟩ := ok_of_bind opened
    obtain ⟨_, checked, same⟩ := ok_of_bind last
    cases same
    have alone : rest = [] := by
      by_contra others
      cases source <;> simp [checkEnclosure, others] at checked
    subst alone
    exact unwraps enclosedRead first rfl

/-- A canonical value that is read as itself is open. -/
theorem isOpen_of_valueWith (unwraps : Unwraps readEnclosed) {value : Value}
    (canonical : value.Canonical)
    (read : (Tree.ofValue value).valueWith readEnclosed source = .ok value) :
    value.isOpen = true := by
  induction canonical with
  | null | boolean | number | string => rfl
  | @array items all inductionHypothesis =>
    rw [ofValue_array, Tree.valueWith] at read
    obtain ⟨values, itemsRead, last⟩ := ok_of_bind read
    cases last
    obtain ⟨taken, same, each⟩ := forall₂_of_readItems itemsRead
    obtain rfl : items = taken := same
    rw [List.forall₂_map_left_iff, List.forall₂_same] at each
    exact every_array.mpr ⟨rfl, fun item belongs =>
      inductionHypothesis item belongs (each item belongs)⟩
  | @object members ascending all inductionHypothesis =>
    have noEnclosure := beginsEnclosure_of_valueWith unwraps read
    rw [ofValue_object, Tree.valueWith, enclosed?_ofMember noEnclosure] at read
    obtain ⟨values, membersRead, last⟩ := ok_of_bind read
    cases last
    have each := valueWith_of_readMembers ascending membersRead
    exact every_object.mpr ⟨by simp [notEnclosure, noEnclosure], fun member belongs =>
      inductionHypothesis member belongs (each member belongs)⟩

/-- No object whose only key is that of enclosures is read from a text. -/
theorem unwraps_ofText : Unwraps Value.ofText :=
  unwraps_ofTextWithin _

/-- A canonical value is read as itself exactly if it is open. -/
theorem any_ofValue_iff {value : Value} (canonical : value.Canonical) :
    Decoder.any source (Tree.ofValue value) = .ok value ↔ value.isOpen = true := by
  refine ⟨isOpen_of_valueWith unwraps_ofText canonical, fun opened => ?_⟩
  have read := reads_any opened source
  rwa [canonical.sortKeys_eq] at read

/-- Canonical members in ascending order that are read as themselves are open. -/
theorem isOpen_of_ofTrees {members : List Member} (ascending : Ascending members)
    (canonical : ∀ member ∈ members, member.2.Canonical)
    (read : Member.ofTrees source (members.map Tree.ofMember) = .ok members) :
    ∀ member ∈ members, member.2.isOpen = true := fun member belongs =>
  isOpen_of_valueWith unwraps_ofText (canonical member belongs)
    (valueWith_of_readMembers ascending read member belongs)

end GatedResolver.Json
