import GatedResolver.Proofs.Json.Documents
import GatedResolver.Proofs.Success

/-!
# Values of any kind read back

Whatever a reader takes out of a document, the value is canonical; and an open value is read
from its own tree as the value with its keys sorted. So an integral, open value that came out
of a document is read from its own text as itself.
-/

namespace GatedResolver.Json

section Readings

variable {readEnclosed : Bytes → Except Fault Value} {source : Source} {breach : Option Breach}
  {value : Value}

/-- The value of a document is read only if nothing follows it. -/
theorem ok_of_readWith {α : Type} {document : Document} {read : Tree → Except Fault α} {result : α}
    (succeeds : document.readWith read = .ok result) :
    read document.tree = .ok result ∧ document.trailing = false := by
  obtain ⟨taken, treeRead, last⟩ := ok_of_bind succeeds
  split at last
  · cases last
  · next nothing =>
    cases last
    exact ⟨treeRead, Bool.eq_false_iff.mpr nothing⟩

/-- An array is read from its items. -/
theorem ok_of_valueWith_array {items : List Tree}
    (read : (Tree.array items breach).valueWith readEnclosed source = .ok value) :
    ∃ values, readItems readEnclosed source [] items = .ok values ∧ value = .array values := by
  obtain ⟨values, itemsRead, last⟩ := ok_of_bind read
  obtain ⟨-, -, same⟩ := ok_of_bind last
  exact ⟨values, itemsRead, (Except.ok.inj same).symm⟩

/-- An object is read from the document that it encloses, or from its members. -/
theorem ok_of_valueWith_object {members : List (Token String × Tree)}
    (read : (Tree.object members breach).valueWith readEnclosed source = .ok value) :
    (∃ tree text, enclosed? members = some tree ∧ tree.text .enclosedText = .ok text ∧
        readEnclosed (Text.utf8 text) = .ok value ∧
        checkEnclosure source members.length breach = .ok ()) ∨
      enclosed? members = none ∧ ∃ values, readMembers readEnclosed source [] members = .ok values ∧
        value = .object values := by
  unfold Tree.valueWith at read
  split at read
  · next tree encloses =>
    obtain ⟨text, named, opened⟩ := ok_of_bind read
    obtain ⟨inner, innerRead, last⟩ := ok_of_bind opened
    obtain ⟨⟨⟩, alone, same⟩ := ok_of_bind last
    cases same
    exact .inl ⟨tree, text, encloses, named, innerRead, alone⟩
  · next nothing =>
    obtain ⟨values, membersRead, last⟩ := ok_of_bind read
    obtain ⟨-, -, same⟩ := ok_of_bind last
    exact .inr ⟨nothing, values, membersRead, (Except.ok.inj same).symm⟩

end Readings

section Canonical

variable {readEnclosed : Bytes → Except Fault Value} {source : Source}

/-- Items that are read from trees are canonical, if each of them is and those read before
are. -/
theorem canonical_of_readItems {items : List Tree} {done values : List Value}
    (each : ∀ item ∈ items, ∀ value, item.valueWith readEnclosed source = .ok value →
      value.Canonical)
    (before : ∀ value ∈ done, value.Canonical)
    (read : readItems readEnclosed source done items = .ok values) :
    ∀ value ∈ values, value.Canonical := by
  induction items generalizing done with
  | nil =>
    cases read
    exact fun value belongs => before value (List.mem_reverse.mp belongs)
  | cons item rest inductionHypothesis =>
    unfold readItems at read
    split at read
    · cases read
    · next value valueRead =>
      refine inductionHypothesis (fun other later => each other (List.mem_cons_of_mem _ later)) ?_
        read
      intro other belongs
      rcases List.mem_cons.mp belongs with rfl | earlier
      · exact each item List.mem_cons_self other valueRead
      · exact before other earlier

/-- Members that are read from trees are in ascending order and canonical, if the value of each
of them is and those read before are. -/
theorem canonical_of_readMembers {members : List (Token String × Tree)} {done values : List Member}
    (each : ∀ member ∈ members, ∀ value, member.2.valueWith readEnclosed source = .ok value →
      value.Canonical)
    (ascending : Ascending done) (before : ∀ member ∈ done, member.2.Canonical)
    (read : readMembers readEnclosed source done members = .ok values) :
    Ascending values ∧ ∀ member ∈ values, member.2.Canonical := by
  induction members generalizing done with
  | nil =>
    cases read
    exact ⟨ascending, before⟩
  | cons member rest inductionHypothesis =>
    obtain ⟨key, tree⟩ := member
    unfold readMembers at read
    split at read
    · cases read
    · next name keyRead =>
      split at read
      · cases read
      · next value valueRead =>
        refine inductionHypothesis (fun other later => each other (List.mem_cons_of_mem _ later))
          (ascending.insertMember name value) ?_ read
        intro other belongs
        rcases mem_insertMember belongs with rfl | earlier
        · exact each (key, tree) List.mem_cons_self value valueRead
        · exact before other earlier

/-- A value that is read from a tree is canonical, if those of enclosed documents are. -/
theorem canonical_of_valueWith
    (encloses : ∀ text value, readEnclosed text = .ok value → value.Canonical)
    (tree : Tree) (value : Value) (read : tree.valueWith readEnclosed source = .ok value) :
    value.Canonical := by
  induction tree using Tree.induction generalizing value with
  | null =>
    cases read
    exact .null
  | boolean known =>
    cases read
    exact .boolean known
  | number token =>
    obtain ⟨number, -, rfl⟩ := ok_of_map read
    exact .number number
  | string token =>
    obtain ⟨text, -, rfl⟩ := ok_of_map read
    exact .string text
  | array items breach inductionHypothesis =>
    obtain ⟨values, itemsRead, rfl⟩ := ok_of_valueWith_array read
    exact .array (canonical_of_readItems inductionHypothesis (by simp) itemsRead)
  | object members breach inductionHypothesis =>
    rcases ok_of_valueWith_object read with ⟨-, text, -, -, innerRead, -⟩ | ⟨-, values, membersRead, rfl⟩
    · exact encloses _ _ innerRead
    · obtain ⟨ascending, all⟩ :=
        canonical_of_readMembers inductionHypothesis .nil (by simp) membersRead
      exact .object ascending all
  | foreign | tooDeep | brokenWord | broken => cases read

end Canonical

/-- A value that is read from a text is canonical, however deep its documents enclose each
other. -/
theorem canonical_of_ofTextWithin {fuel : Nat} {text : Bytes} {value : Value}
    (read : Value.ofTextWithin fuel text = .ok value) : value.Canonical := by
  induction fuel generalizing text value with
  | zero => cases read
  | succ fuel inductionHypothesis =>
    exact canonical_of_valueWith (fun text value => inductionHypothesis) _ value
      (ok_of_readWith read).1

/-- The members of an object that is read are in ascending order and canonical. -/
theorem canonical_of_ofTrees {source : Source} {members : List (Token String × Tree)}
    {values : List Member} (read : Member.ofTrees source members = .ok values) :
    Ascending values ∧ ∀ member ∈ values, member.2.Canonical :=
  canonical_of_readMembers
    (fun member _ => canonical_of_valueWith (fun _ _ => canonical_of_ofTextWithin) member.2) .nil
    (by simp) read

/-- Every key that is read was there before or is the key of a member. -/
theorem key_of_readMembers {readEnclosed : Bytes → Except Fault Value} {source : Source}
    {members : List (Token String × Tree)} {done values : List Member}
    (read : readMembers readEnclosed source done members = .ok values) {key : String}
    (belongs : key ∈ values.map Prod.fst) :
    key ∈ done.map Prod.fst ∨ ∃ member ∈ members, member.1.read = .ok key := by
  induction members generalizing done with
  | nil =>
    cases read
    exact .inl belongs
  | cons member rest inductionHypothesis =>
    obtain ⟨token, tree⟩ := member
    unfold readMembers at read
    split at read
    · cases read
    · next name keyRead =>
      split at read
      · cases read
      · next value valueRead =>
        rcases inductionHypothesis read with earlier | ⟨other, later, otherRead⟩
        · obtain ⟨known, knownBelongs, rfl⟩ := List.mem_map.mp earlier
          rcases mem_insertMember knownBelongs with rfl | before
          · exact .inr ⟨(token, tree), List.mem_cons_self, keyRead⟩
          · exact .inl (List.mem_map_of_mem before)
        · exact .inr ⟨other, List.mem_cons_of_mem _ later, otherRead⟩

section Open

variable (readEnclosed : Bytes → Except Fault Value) (source : Source)

/-- Trees of items are read one by one. -/
theorem readItems_ofValue {items : List Value}
    (reads : ∀ item ∈ items,
      (Tree.ofValue item).valueWith readEnclosed source = .ok (sortKeys item))
    (done : List Value) :
    readItems readEnclosed source done (items.map Tree.ofValue) =
      .ok (sortKeysItems done items) := by
  induction items generalizing done with
  | nil => rfl
  | cons item rest inductionHypothesis =>
    simp only [List.map_cons, readItems, reads item List.mem_cons_self, sortKeysItems]
    exact inductionHypothesis (fun other later => reads other (List.mem_cons_of_mem _ later)) _

/-- Trees of members are read one by one. -/
theorem readMembers_ofMember {members : List (String × Value)}
    (reads : ∀ member ∈ members,
      (Tree.ofValue member.2).valueWith readEnclosed source = .ok (sortKeys member.2))
    (done : List Member) :
    readMembers readEnclosed source done (members.map Tree.ofMember) =
      .ok (sortKeysMembers done members) := by
  induction members generalizing done with
  | nil => rfl
  | cons member rest inductionHypothesis =>
    simp only [List.map_cons, Tree.ofMember, readMembers, reads member List.mem_cons_self,
      sortKeysMembers]
    exact inductionHypothesis (fun other later => reads other (List.mem_cons_of_mem _ later)) _

/-- Members that do not begin an enclosure enclose nothing. -/
theorem enclosed?_ofMember {members : List (String × Value)}
    (noEnclosure : beginsEnclosure members = false) : enclosed? (members.map Tree.ofMember) = none := by
  cases members with
  | nil => rfl
  | cons member rest =>
    have different : member.1 ≠ enclosureKey := by simpa [beginsEnclosure] using noEnclosure
    simp [enclosed?, Tree.ofMember, different]

/-- An open value is read from its tree as the value with its keys sorted. -/
theorem valueWith_ofValue {value : Value} (opened : value.isOpen = true) :
    (Tree.ofValue value).valueWith readEnclosed source = .ok (sortKeys value) := by
  induction value using Value.induction with
  | null => rfl
  | boolean value => rfl
  | number value => rfl
  | string value => rfl
  | array items inductionHypothesis =>
    have each := (every_array.mp opened).2
    rw [ofValue_array, Tree.valueWith, readItems_ofValue readEnclosed source
      fun item belongs => inductionHypothesis item belongs (each item belongs)]
    rfl
  | object members inductionHypothesis =>
    obtain ⟨notEnclosed, each⟩ := every_object.mp opened
    have noEnclosure : beginsEnclosure members = false := by simpa [notEnclosure] using notEnclosed
    rw [ofValue_object, Tree.valueWith, enclosed?_ofMember noEnclosure]
    simp only
    rw [readMembers_ofMember readEnclosed source
      fun member belongs => inductionHypothesis member belongs (each member belongs)]
    rfl

end Open

/-- A document of a value is read as its tree is, where only so many enclosures may be opened. -/
theorem Value.IsText.exists_valueOfText_eq {value : Value} {text : Bytes}
    (isText : value.IsText text) (shallow : value.depth ≤ depthLimit) :
    ∃ fuel, Value.ofText text = (Tree.ofValue value).valueWith (Value.ofTextWithin fuel) .text := by
  obtain ⟨fuel, length⟩ := Nat.exists_eq_succ_of_ne_zero (Nat.ne_of_gt isText.length_pos)
  exact ⟨fuel, by rw [Value.ofText, length, Value.ofTextWithin, isText.readWith_eq shallow]⟩

/-- A document of an open value is read as the value with its keys sorted. -/
theorem Value.IsText.valueOfText {value : Value} {text : Bytes} (isText : value.IsText text)
    (opened : value.isOpen = true) (shallow : value.depth ≤ depthLimit) :
    Value.ofText text = .ok (sortKeys value) := by
  obtain ⟨fuel, same⟩ := isText.exists_valueOfText_eq shallow
  rw [same, valueWith_ofValue _ _ opened]

/-- An integral, open value is read from its compact text as the value with its keys sorted. -/
theorem valueOfText_compact {value : Value} (integral : value.isIntegral = true)
    (opened : value.isOpen = true)
    (shallow : value.depth ≤ depthLimit) : Value.ofText value.compact = .ok (sortKeys value) :=
  (isText_compact integral).valueOfText opened shallow

end GatedResolver.Json
