import GatedResolver.Proofs.Json.Consistency
import GatedResolver.Proofs.Json.Reading
import GatedResolver.Proofs.Remote.Documents

/-!
# Documents of decisions

A decision is read from a text only if the text is a document of a decision: an object within the
nesting limit in which exactly one member is called the state, and that one is a string
(`exists_isDocument`). The value of the decision is then the one that a reader of any values makes of
the text, up to the order of members (`rearranged_of_decode`). The other way round, a decision is read
from every document of a decision with open members, and has for every key what the document has
(`IsDocument.decoded`).
-/

namespace GatedResolver.Policy.Decision

open Json (Member Token Tree Value)

/-- A text is a document of a decision: an object within the nesting limit with these members, of
which exactly one is called the state, and that one is a string. -/
structure IsDocument (text : Bytes) (members : List Member) (state : String) : Prop where
  isText : (Value.object members).IsText text
  shallow : (Value.object members).depth ≤ Json.depthLimit
  single : members.filter (fun member => member.1 == "state") = [("state", .string state)]

/-- One member is called the state exactly if it stands between members with other keys. -/
theorem single_iff {members : List Member} {state : String} :
    members.filter (fun member => member.1 == "state") = [("state", .string state)] ↔
      ∃ front back, members = front ++ ("state", .string state) :: back ∧
        "state" ∉ (front ++ back).map Prod.fst := by
  simp only [List.filter_eq_cons_iff, List.filter_eq_nil_iff, List.map_append, List.mem_append,
    List.mem_map, beq_iff_eq, not_or, not_exists, not_and]
  constructor
  · rintro ⟨front, back, parts, before, -, behind⟩
    exact ⟨front, back, parts, before, behind⟩
  · rintro ⟨front, back, parts, before, behind⟩
    exact ⟨front, back, parts, before, trivial, behind⟩

/-- A decision is made of a state that is a string, wherever it stands, and of what the other members
are read as. -/
theorem decoder_ofMembers (source : Json.Source) (state : String) {front back : List Member}
    (apart : "state" ∉ (front ++ back).map Prod.fst) :
    decoder source (Tree.ofValue (.object (front ++ ("state", .string state) :: back))) =
      (Member.ofTrees .collected ((front ++ back).map Tree.ofMember)).map
        fun extra => ⟨.ofText state, extra⟩ := by
  have read := decoder_ofValue source (congrArg State.ofText (text_ofText state)) apart
  rwa [State.toJson, text_ofText] at read

/-- A member beside another one is among all of them. -/
theorem mem_of_beside (other : Member) {member : Member} {front back : List Member}
    (belongs : member ∈ front ++ back) : member ∈ front ++ other :: back :=
  List.mem_append.mpr ((List.mem_append.mp belongs).imp_right (List.mem_cons_of_mem _))

section Accepted

variable {source : Json.Source} {draft last : Draft}

/-- A member that is taken is in order. -/
theorem check_of_take {key : String} {tree : Tree} (taken : take source key tree draft = .ok last) :
    tree.check = .ok () := by
  unfold take at taken
  split at taken
  · split at taken
    · cases taken
    · obtain ⟨state, stateRead, -⟩ := ok_of_map taken
      obtain ⟨text, textRead, -⟩ := ok_of_map stateRead
      cases tree with
      | string token =>
        have known : token.read = .ok text := textRead
        rw [Tree.check, known]
        rfl
      | _ =>
        obtain ⟨found, -, wrong⟩ := ok_of_bind textRead
        cases wrong
  · obtain ⟨⟨⟩, checked, -⟩ := ok_of_map taken
    exact checked

/-- Members that are taken are in order. -/
theorem check_of_takeMembers {members : List (Token String × Tree)}
    (took : Json.takeMembers (fun key tree draft => some (take source key tree draft)) draft members =
      .ok last) :
    ∀ member ∈ members, (∃ key, member.1.read = .ok key) ∧ member.2.check = .ok () := by
  induction members generalizing draft with
  | nil => simp
  | cons member rest inductionHypothesis =>
    obtain ⟨token, tree⟩ := member
    unfold Json.takeMembers at took
    split at took
    · cases took
    · next key keyRead =>
      split at took
      · cases took
      · next changed taken =>
        exact List.forall_mem_cons.mpr
          ⟨⟨⟨key, keyRead⟩, check_of_take (Option.some.inj taken)⟩, inductionHypothesis took⟩
      · next missing => cases missing

/-- A tree that a decision is read from is in order. -/
theorem check_of_decoder {tree : Tree} {decision : Decision}
    (read : decoder source tree = .ok decision) : tree.check = .ok () := by
  unfold decoder at read
  split at read
  · next members breach =>
    obtain ⟨draft, took, closed⟩ := ok_of_bind read
    obtain ⟨⟨⟩, raised, -⟩ := ok_of_bind closed
    refine Json.check_object_iff.mpr ⟨check_of_takeMembers took, ?_⟩
    cases breach with
    | none => rfl
    | some breach => cases raised
  · obtain ⟨found, -, wrong⟩ := ok_of_bind read
    cases wrong

/-- The state is taken from a string, and only if there is none yet. -/
theorem state_of_take {value : Value}
    (taken : take source "state" (Tree.ofValue value) draft = .ok last) :
    draft.state = none ∧ last.state ≠ none ∧ ∃ state, value = .string state := by
  rw [take, if_pos rfl] at taken
  split at taken
  · cases taken
  · next absent =>
    obtain ⟨state, stateRead, rfl⟩ := ok_of_map taken
    obtain ⟨text, textRead, -⟩ := ok_of_map stateRead
    refine ⟨absent, by simp, text, ?_⟩
    cases value with
    | string known =>
      cases textRead
      rfl
    | _ =>
      obtain ⟨found, -, wrong⟩ := ok_of_bind textRead
      cases wrong

/-- A member beside the state leaves the state as it is. -/
theorem state_of_take_other {key : String} {tree : Tree} (different : key ≠ "state")
    (taken : take source key tree draft = .ok last) : last.state = draft.state := by
  rw [take, if_neg different] at taken
  obtain ⟨-, -, rfl⟩ := ok_of_map taken
  rfl

/-- Among members that are taken, the state is met once, as a string, or it is not there. -/
theorem state_of_takeMembers {members : List Member}
    (took : Json.takeMembers (fun key tree draft => some (take source key tree draft)) draft
      (members.map Tree.ofMember) = .ok last) :
    (last.state = draft.state ∧ "state" ∉ members.map Prod.fst) ∨
      draft.state = none ∧ ∃ front state back,
        members = front ++ ("state", .string state) :: back ∧
        "state" ∉ (front ++ back).map Prod.fst := by
  induction members generalizing draft with
  | nil =>
    cases took
    exact .inl ⟨rfl, by simp⟩
  | cons member rest inductionHypothesis =>
    obtain ⟨key, value⟩ := member
    simp only [List.map_cons, Tree.ofMember, Json.takeMembers] at took
    split at took
    · cases took
    · next changed taken =>
      have taken := Option.some.inj taken
      by_cases called : key = "state"
      · subst called
        obtain ⟨absent, present, state, rfl⟩ := state_of_take taken
        rcases inductionHypothesis took with ⟨-, apart⟩ | ⟨missing, -⟩
        · exact .inr ⟨absent, [], state, rest, rfl, by simpa using apart⟩
        · exact absurd missing present
      · have kept := state_of_take_other called taken
        rw [← kept]
        rcases inductionHypothesis took with ⟨same, apart⟩ | ⟨absent, front, state, back, rfl, apart⟩
        · exact .inl ⟨same, by simp [Ne.symm called, apart]⟩
        · refine .inr ⟨absent, (key, value) :: front, state, back, rfl, ?_⟩
          simpa [Ne.symm called] using apart
    · next missing => cases missing

/-- A decision is read only from a document of a decision, and is made of the state and of what the
other members are read as. -/
theorem exists_isDocument {text : Bytes} {decision : Decision}
    (decoded : decoder.decode text = .ok decision) :
    ∃ front state back extra, IsDocument text (front ++ ("state", .string state) :: back) state ∧
      "state" ∉ (front ++ back).map Prod.fst ∧
      Member.ofTrees .collected ((front ++ back).map Tree.ofMember) = .ok extra ∧
      decision = ⟨.ofText state, extra⟩ := by
  obtain ⟨read, nothing⟩ := Json.ok_of_readWith decoded
  obtain ⟨value, isText, shallow, document⟩ :=
    Json.exists_isText_of_check (check_of_decoder read) nothing
  rw [document] at read
  cases value with
  | object members =>
    have whole := read
    rw [Json.ofValue_object] at read
    obtain ⟨draft, took, closed⟩ := ok_of_bind read
    obtain ⟨⟨⟩, -, finished⟩ := ok_of_bind closed
    rcases state_of_takeMembers took with ⟨absent, -⟩ | ⟨-, front, state, back, rfl, apart⟩
    · rw [absent] at finished
      cases finished
    · rw [decoder_ofMembers .text state apart] at whole
      obtain ⟨extra, extraRead, made⟩ := ok_of_map whole
      exact ⟨front, state, back, extra,
        ⟨isText, shallow, single_iff.mpr ⟨front, back, rfl, apart⟩⟩, apart, extraRead, made.symm⟩
  | _ =>
    obtain ⟨found, -, wrong⟩ := ok_of_bind read
    cases wrong

end Accepted

section Reflected

variable {text : Bytes} {members : List Member} {state : String}

/-- A decision has what members have: the state as it stands there, for every key the last value,
with its keys sorted, and nothing else, so that its value is that of the members up to their
order. -/
structure Reflects (decision : Decision) (members : List Member) (state : String) : Prop where
  verbatim : decision.state.text = state
  kept : ∀ key, Json.member? key (("state", decision.state.toJson) :: decision.extra) =
    (Json.member? key members.reverse).map Json.sortKeys
  rearranged : decision.toJson.Rearranged (Json.sortKeys (.object members))

/-- The decision that is made of the state and of the other members, sorted, has what all of them
have. -/
theorem reflects_sortKeysMembers {front back : List Member} (state : String)
    (apart : "state" ∉ (front ++ back).map Prod.fst) :
    Reflects ⟨.ofText state, Json.sortKeysMembers [] (front ++ back)⟩
      (front ++ ("state", .string state) :: back) state := by
  have kept : ∀ key, Json.member? key (("state", (State.ofText state).toJson) ::
      Json.sortKeysMembers [] (front ++ back)) =
        (Json.member? key (front ++ ("state", .string state) :: back).reverse).map Json.sortKeys := by
    intro key
    rw [State.toJson, text_ofText, Json.member?, Json.member?_sortKeysMembers]
    simp only [List.reverse_append, List.reverse_cons, List.append_assoc, List.singleton_append,
      Json.member?_append, Json.member?, Option.or_none]
    split
    · next same =>
      have behind : key ∉ back.reverse.map Prod.fst := by
        simp only [List.map_append, List.mem_append, not_or] at apart
        simpa [same] using apart.2
      rw [Json.member?_eq_none_iff.mpr behind]
      rfl
    · rfl
  have unknown : "state" ∉ (Json.sortKeysMembers [] (front ++ back)).map Prod.fst := by
    rw [← Json.member?_eq_none_iff, Json.member?_sortKeysMembers, Json.member?_eq_none_iff.mpr]
    · rfl
    · rwa [List.map_reverse, List.mem_reverse]
  refine ⟨text_ofText state, kept, .members (Json.perm_of_member?_eq ?_ ?_ fun key => ?_)⟩
  · exact List.nodup_cons.mpr ⟨unknown, (Json.ascending_sortKeysMembers .nil _).nodup_keys⟩
  · exact (Json.ascending_sortKeysMembers .nil _).nodup_keys
  · rw [kept, Json.member?_sortKeysMembers]
    simp [Json.member?]

/-- A document of a decision with open members is read as a decision that has what they have. -/
theorem IsDocument.decoded (document : IsDocument text members state)
    (opened : ∀ member ∈ members, member.2.isOpen = true) :
    ∃ decision, decoder.decode text = .ok decision ∧ decision.Reflects members state := by
  obtain ⟨isText, shallow, single⟩ := document
  obtain ⟨front, back, rfl, apart⟩ := single_iff.mp single
  refine ⟨_, ?_, reflects_sortKeysMembers state apart⟩
  have extraRead : Member.ofTrees .collected ((front ++ back).map Tree.ofMember) =
      .ok (Json.sortKeysMembers [] (front ++ back)) := by
    refine Json.readMembers_ofMember _ _ (fun member belongs => ?_) []
    exact Json.valueWith_ofValue _ _ (opened member (mem_of_beside _ belongs))
  rw [Json.Decoder.decode, isText.readWith_eq shallow, decoder_ofMembers .text state apart, extraRead]
  rfl

/-- A document of a decision encloses no other document: where it begins with the key of enclosures,
the state stands beside that. -/
theorem readMembers_of_valueWith {source : Json.Source} {readEnclosed : Bytes → Except Json.Fault Value}
    {front back : List Member} {value : Value}
    (read : (Tree.ofValue (.object (front ++ ("state", .string state) :: back))).valueWith
      readEnclosed source = .ok value) :
    ∃ values, Json.readMembers readEnclosed source []
      ((front ++ ("state", .string state) :: back).map Tree.ofMember) = .ok values ∧
      value = .object values := by
  rw [Json.ofValue_object] at read
  rcases Json.ok_of_valueWith_object read with ⟨tree, text, encloses, -, -, alone⟩ | ⟨-, found⟩
  · exfalso
    cases front with
    | nil => simp [Json.enclosed?, Tree.ofMember, Json.enclosureKey] at encloses
    | cons member front =>
      cases source <;> simp [Json.checkEnclosure] at alone
  · exact found

/-- A decision that is read from a text has the value that is read from the text, up to the order of
members. -/
theorem rearranged_of_decode {decision : Decision} {value : Value}
    (decoded : decoder.decode text = .ok decision) (read : Value.ofText text = .ok value) :
    decision.toJson.Rearranged value := by
  obtain ⟨front, state, back, extra, ⟨isText, shallow, -⟩, apart, extraRead, rfl⟩ :=
    exists_isDocument decoded
  obtain ⟨fuel, same⟩ := isText.exists_valueOfText_eq shallow
  rw [same] at read
  obtain ⟨values, membersRead, rfl⟩ := readMembers_of_valueWith read
  obtain ⟨otherRead, sorted⟩ :=
    Json.readMembers_eq_ok extraRead fun _ _ => Json.canonical_of_ofTextWithin
  obtain ⟨memberRead, whole⟩ :=
    Json.readMembers_eq_ok membersRead fun _ _ => Json.canonical_of_ofTextWithin
  -- both readers make the same of the members beside the state
  have others : Json.membersReadAs Value.ofText .collected (front ++ back) =
      Json.membersReadAs (Value.ofTextWithin fuel) .text (front ++ back) := by
    refine List.map_congr_left fun member belongs => ?_
    rw [Json.eq_of_valueWith (Json.consistent_ofText fuel) _ (otherRead member belongs)
      (memberRead member (mem_of_beside _ belongs))]
  have stateRead : (Value.string state).readAs (Value.ofTextWithin fuel) .text = .string state := rfl
  rw [← Json.keys_membersReadAs (Value.ofTextWithin fuel) .text, Json.membersReadAs_append] at apart
  have reflected := (reflects_sortKeysMembers state apart).rearranged
  rw [sorted, others, whole, Json.membersReadAs_append, Json.membersReadAs_append,
    Json.membersReadAs_cons, stateRead]
  exact reflected

end Reflected

end GatedResolver.Policy.Decision
