import GatedResolver.Json.Decode
import GatedResolver.Proofs.Json.Untyped

/-!
# Typed values read back

`Reads` says that a decoder takes a value of its type out of a JSON value, wherever that comes
from. What is read from a value is read from its compact text, too, if the value is integral, and
from its indented text if it is legible.
-/

namespace GatedResolver.Json

variable {α : Type}

/-- A decoder takes a result out of a JSON value. -/
def Reads (decoder : Decoder α) (value : Value) (result : α) : Prop :=
  ∀ source, decoder source (Tree.ofValue value) = .ok result

/-- What is read from an integral value is read from its compact text. -/
theorem Reads.decode_compact {decoder : Decoder α} {value : Value} {result : α}
    (reads : Reads decoder value result) (integral : value.isIntegral = true)
    (shallow : value.depth ≤ depthLimit) : decoder.decode value.compact = .ok result := by
  rw [Decoder.decode, (isText_compact integral).readWith_eq shallow, reads .text]

/-- What is read from a legible value is read from its indented text. -/
theorem Reads.decode_indented {decoder : Decoder α} {value : Value} {result : α}
    (reads : Reads decoder value result) (legible : value.isLegible = true)
    (shallow : value.depth ≤ depthLimit) : decoder.decode value.indented = .ok result := by
  rw [Decoder.decode, (isText_indented legible).readWith_eq shallow, reads .text]

/-- A text is read as that text. -/
theorem reads_text (text : String) : Reads Decoder.text (.string text) text :=
  fun _ => rfl

/-- A 32-bit word is read as that word. -/
theorem reads_uint32 (word : UInt32) : Reads Decoder.uint32 (.ofUInt32 word) word := by
  intro source
  have bound := word.toNat_lt
  have within : Decoder.range32.least ≤ word.toNat ∧ word.toNat ≤ Decoder.range32.greatest := by
    simp only [Decoder.range32]
    omega
  have read : Decoder.integerIn Decoder.range32 source (Tree.ofValue (.ofUInt32 word)) =
      .ok word.toNat := if_pos within
  rw [Decoder.uint32, Decoder.map, read]
  simp [Except.map]

/-- A signed 64-bit word is read as that word. -/
theorem reads_int64 (word : Int64) : Reads Decoder.int64 (.ofInt64 word) word := by
  intro source
  have least := word.le_toInt
  have greatest := word.toInt_lt
  have within : Decoder.rangeSigned64.least ≤ word.toInt ∧
      word.toInt ≤ Decoder.rangeSigned64.greatest := by
    simp only [Decoder.rangeSigned64]
    omega
  have read : Decoder.integerIn Decoder.rangeSigned64 source (Tree.ofValue (.ofInt64 word)) =
      .ok word.toInt := if_pos within
  rw [Decoder.int64, Decoder.map, read]
  simp [Except.map]

/-- Items of one type are read one by one. -/
theorem itemsOnto_ofValue {decoder : Decoder α} {encode : α → Value}
    (reads : ∀ item, Reads decoder (encode item) item) (source : Source) (done items : List α) :
    Decoder.itemsOnto (decoder source) done (items.map fun item => Tree.ofValue (encode item)) =
      .ok (done.reverse ++ items) := by
  induction items generalizing done with
  | nil => simp [Decoder.itemsOnto]
  | cons item rest inductionHypothesis =>
    simp only [List.map_cons, Decoder.itemsOnto, reads item source]
    rw [inductionHypothesis]
    simp

/-- An array of one type is read as the list of its items. -/
theorem reads_list {decoder : Decoder α} {encode : α → Value}
    (reads : ∀ item, Reads decoder (encode item) item) (items : List α) :
    Reads (Decoder.list decoder) (.array (items.map encode)) items := by
  intro source
  rw [ofValue_array, List.map_map, Decoder.list, Function.comp_def,
    itemsOnto_ofValue reads source [] items]
  rfl

/-- An open value is read by a reader of any values as the value with its keys sorted. -/
theorem reads_any {value : Value} (opened : value.isOpen = true) :
    Reads Decoder.any value (sortKeys value) :=
  fun source => valueWith_ofValue _ source opened

/-- What is read and accepted by a rule is read by both together. -/
theorem Reads.check {β : Type} {decoder : Decoder α} {value : Value} {result : α}
    (reads : Reads decoder value result) {rule : α → Except String β} {accepted : β}
    (accepts : rule result = .ok accepted) :
    Reads (Decoder.check rule decoder) value accepted := by
  intro source
  simp [Decoder.check, reads source, bind, Except.bind, accepts, pure, Except.pure]

/-- What is not `null` is read where it may be absent as it is read elsewhere. -/
theorem Reads.nullable {decoder : Decoder α} {value : Value} {result : α}
    (reads : Reads decoder value result) (present : value ≠ .null) :
    Reads (Decoder.nullable decoder) value (some result) := by
  intro source
  have read := reads source
  unfold Decoder.nullable
  split
  · next absent =>
    cases value <;> simp_all [Tree.ofValue]
  · next absent =>
    cases value <;> simp_all [Tree.ofValue]
  · rw [read]
    rfl

/-- What taking a member preserves holds when all members of an object were looked at. -/
theorem takeMembers_preserves {Draft : Type}
    {take : String → Tree → Draft → Option (Except Fault Draft)} (Invariant : Draft → Prop)
    (taken : ∀ key tree draft changed, Invariant draft →
      take key tree draft = some (.ok changed) → Invariant changed)
    {draft last : Draft} {members : List (Token String × Tree)} (holds : Invariant draft)
    (took : takeMembers take draft members = .ok last) : Invariant last := by
  induction members generalizing draft with
  | nil =>
    cases took
    exact holds
  | cons member rest inductionHypothesis =>
    obtain ⟨token, tree⟩ := member
    unfold takeMembers at took
    split at took
    · cases took
    · next key keyRead =>
      split at took
      · cases took
      · next changed changes => exact inductionHypothesis (taken _ _ _ _ holds changes) took
      · split at took
        · cases took
        · exact inductionHypothesis holds took

/-- Members are taken in two parts. -/
theorem takeMembers_append {Draft : Type}
    {take : String → Tree → Draft → Option (Except Fault Draft)} (draft : Draft)
    (front back : List (Token String × Tree)) :
    takeMembers take draft (front ++ back) =
      takeMembers take draft front >>= fun middle => takeMembers take middle back := by
  induction front generalizing draft with
  | nil => rfl
  | cons member rest inductionHypothesis =>
    obtain ⟨token, tree⟩ := member
    simp only [List.cons_append, takeMembers]
    cases token.read with
    | error fault => rfl
    | ok key =>
      simp only
      split
      · rfl
      · exact inductionHypothesis _
      · split
        · rfl
        · exact inductionHypothesis draft

namespace Fields

variable {β : Type}

/-- The fields take members one after the other, which brings one draft to another. -/
inductive Takes (fields : Fields α) (source : Source) :
    fields.Draft → List (String × Value) → fields.Draft → Prop
  | nil (draft : fields.Draft) : Takes fields source draft [] draft
  | cons {draft changed last : fields.Draft} {key : String} {value : Value}
      {rest : List (String × Value)}
      (taken : fields.take key source (Tree.ofValue value) draft = some (.ok changed))
      (others : Takes fields source changed rest last) :
      Takes fields source draft ((key, value) :: rest) last

/-- The fields have no member with a key. -/
def Ignores (fields : Fields α) (key : String) : Prop :=
  ∀ source tree draft, fields.take key source tree draft = none

/-- The fields make a record of members. -/
def Reads (fields : Fields α) (members : List (String × Value)) (result : α) : Prop :=
  ∀ source, ∃ draft, Takes fields source fields.blank members draft ∧
    fields.finish draft = .ok result

variable {left : Fields α} {right : Fields β} {source : Source}

/-- Members are taken in two parts. -/
theorem Takes.append {first second third : left.Draft} {front back : List (String × Value)}
    (frontTaken : Takes left source first front second)
    (backTaken : Takes left source second back third) :
    Takes left source first (front ++ back) third := by
  induction frontTaken with
  | nil draft => exact backTaken
  | cons taken others inductionHypothesis => exact .cons taken (inductionHypothesis backTaken)

/-- What the fields of one record take, they take when another record comes second. -/
theorem Takes.both_left {draft changed : left.Draft} {members : List (String × Value)}
    (takes : Takes left source draft members changed) (other : right.Draft) :
    Takes (left.both right) source (draft, other) members (changed, other) := by
  induction takes with
  | nil draft => exact .nil _
  | cons taken others inductionHypothesis =>
    refine .cons ?_ inductionHypothesis
    simp only [both, taken]
    rfl

/-- What the fields of one record take, they take when another record comes first, unless that
has a member with the same key. -/
theorem Takes.both_right {draft changed : right.Draft} {members : List (String × Value)}
    (takes : Takes right source draft members changed)
    (apart : ∀ member ∈ members, left.Ignores member.1) (other : left.Draft) :
    Takes (left.both right) source (other, draft) members (other, changed) := by
  induction takes with
  | nil draft => exact .nil _
  | cons taken others inductionHypothesis =>
    refine .cons ?_ (inductionHypothesis fun member later =>
      apart member (List.mem_cons_of_mem _ later))
    have ignored := apart _ List.mem_cons_self source
    simp only [both, ignored, taken]
    rfl

/-- A field is read from the member with its name. -/
theorem reads_one {name : String} {decoder : Decoder α} {absent : Except Fault α}
    {replacement : Option α} {value : Value} {result : α}
    (reads : Json.Reads decoder value result) :
    Reads (one name decoder absent replacement) [(name, value)] result := by
  intro source
  refine ⟨some result, .cons ?_ (.nil _), rfl⟩
  simp only [one, reads source, if_pos]
  rfl

/-- A field that an object may lack is read from the member with its name. -/
theorem reads_optional (name : String) {decoder : Decoder α} {value : Value} {result : α}
    (reads : Json.Reads decoder value result) (present : value ≠ .null) :
    Reads (optional name decoder) [(name, value)] (some result) :=
  reads_one (reads.nullable present)

/-- A field has none of the members with other names. -/
theorem ignores_of_notMem {name : String} {members : List (String × Value)}
    (different : name ∉ members.map Prod.fst) (decoder : Decoder α) (absent : Except Fault α)
    (replacement : Option α) :
    ∀ member ∈ members, Ignores (one name decoder absent replacement) member.1 := by
  intro member belongs source tree draft
  refine if_neg fun same => different ?_
  exact same ▸ List.mem_map_of_mem belongs

/-- The members of two records make both, one after the other. -/
theorem Reads.both {leftMembers rightMembers : List (String × Value)} {leftResult : α}
    {rightResult : β} (leftReads : Reads left leftMembers leftResult)
    (rightReads : Reads right rightMembers rightResult)
    (apart : ∀ member ∈ rightMembers, left.Ignores member.1) :
    Reads (left.both right) (leftMembers ++ rightMembers) (leftResult, rightResult) := by
  intro source
  obtain ⟨leftDraft, leftTaken, leftDone⟩ := leftReads source
  obtain ⟨rightDraft, rightTaken, rightDone⟩ := rightReads source
  refine ⟨_, (leftTaken.both_left right.blank).append (rightTaken.both_right apart leftDraft), ?_⟩
  simp only [Fields.both, leftDone, rightDone]
  rfl

/-- A change of the record does not change what its fields take. -/
theorem Takes.map {draft changed : left.Draft} {members : List (String × Value)}
    (takes : Takes left source draft members changed) (make : α → β) :
    Takes (left.map make) source draft members changed := by
  induction takes with
  | nil draft => exact .nil _
  | cons taken others inductionHypothesis => exact .cons taken inductionHypothesis

/-- Members that are taken are passed over without a fault. -/
theorem Takes.takeMembers_eq {draft changed : left.Draft} {members : List (String × Value)}
    (takes : Takes left source draft members changed) :
    takeMembers (fun key => left.take key source) draft (members.map Tree.ofMember) =
      .ok changed := by
  induction takes with
  | nil draft => rfl
  | cons taken others inductionHypothesis =>
    simp only [List.map_cons, Tree.ofMember, takeMembers, taken]
    exact inductionHypothesis

/-- What is made of a record is made of the one that is read. -/
theorem Reads.map {members : List (String × Value)} {result : α} (reads : Reads left members result)
    (make : α → β) : Reads (left.map make) members (make result) := by
  intro source
  obtain ⟨draft, taken, done⟩ := reads source
  refine ⟨draft, taken.map make, ?_⟩
  simp only [Fields.map, done]
  rfl

/-- A record is read from an object with its members. -/
theorem Reads.record {members : List (String × Value)} {result : α}
    (reads : Reads left members result) (name : String) :
    Json.Reads (Decoder.record name left) (.object members) result := by
  intro source
  obtain ⟨draft, taken, done⟩ := reads source
  rw [ofValue_object]
  simp only [Decoder.record, taken.takeMembers_eq]
  exact done

end Fields

end GatedResolver.Json
