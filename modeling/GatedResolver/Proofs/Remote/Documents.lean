import GatedResolver.CacheWrite
import GatedResolver.Policy.Decision
import GatedResolver.Proofs.Json.Rereading
import GatedResolver.Quorum.Reply
import GatedResolver.Resolution.Basic

/-!
# Documents between services

What one service writes, another one reads: answers, replies, requests to store an answer,
decisions and resolutions. A decision that came out of a document is *in order*, and so it is read
back as it is, as long as the document that it is written as is open.
-/

namespace GatedResolver

open Json (Reads Rereads Value)
open Json.Fields (ignores_of_notMem orderly_one reads_optional rereads_optional rereads_required)

/-- A name is reread as that name. -/
theorem Name.rereads (name : Name) : Rereads Name.decoder name.toJson name := by
  refine (Json.rereads_text name.text).check ?_
  rw [parse_text]
  rfl

namespace Answer

/-- An answer is reread as that answer. -/
theorem rereads (answer : Answer) : Rereads decoder answer.toJson answer := by
  have data := rereads_required "data" (Json.rereads_text answer.data)
  have ttl := data.behind "ttl" (Json.rereads_uint32 answer.ttl) (by simp)
  have recordType := ttl.behind "type" (Json.rereads_text answer.recordType) (by simp)
  exact (recordType.map _).record ((orderly_one.both (orderly_one.both orderly_one)).map _) (by simp) "Answer"

/-- An answer is read as that answer. -/
theorem reads (answer : Answer) : Reads decoder answer.toJson answer :=
  answer.rereads.plain

/-- An answer is read as that answer after its keys were sorted, too. -/
theorem reads_sortKeys (answer : Answer) : Reads decoder (Json.sortKeys answer.toJson) answer :=
  answer.rereads.sorted

/-- An answer is written as an open document. -/
theorem isOpen_toJson (answer : Answer) : answer.toJson.isOpen = true :=
  rfl

end Answer

namespace Quorum

/-- A tally is reread as that tally. -/
theorem Tally.rereads (tally : Tally) : Rereads Tally.decoder tally.toJson tally := by
  have responded := rereads_required "responded" (Json.rereads_uint32 tally.responded)
  have required := responded.behind "required" (Json.rereads_uint32 tally.required) (by simp)
  exact (required.map _).record ((orderly_one.both orderly_one).map _) (by simp) "QuorumTally"

/-- The fields of a reply are orderly. -/
theorem Reply.orderly_fields : Reply.fields.Orderly :=
  (orderly_one.both (orderly_one.both (orderly_one.both (orderly_one.both
    (orderly_one.both orderly_one))))).map _

/-- A reply is reread as that reply. -/
theorem Reply.rereads (reply : Reply) : Rereads Reply.decoder reply.toJson reply := by
  have members := Json.rereads_list Json.rereads_text reply.members
  have quorum := rereads_required "quorum" (Tally.rereads reply.tally)
  have upstreams := quorum.behind "upstreams" members (by simp)
  have data := upstreams.behind "data" (Json.rereads_text reply.data) (by simp)
  have ttl := data.behind "ttl" (Json.rereads_uint32 reply.ttl) (by simp)
  have recordType := ttl.behind "type" (Json.rereads_text reply.recordType) (by simp)
  have name := recordType.behind "name" (Name.rereads reply.name) (by simp)
  exact (name.map _).record Reply.orderly_fields (by simp) "UpstreamAnswer"

/-- A reply is read as that reply. -/
theorem Reply.reads (reply : Reply) : Reads Reply.decoder reply.toJson reply :=
  reply.rereads.plain

/-- All numbers of a reply are integers. -/
theorem Reply.isIntegral_toJson (reply : Reply) : reply.toJson.isIntegral = true := by
  have members : (Value.array (reply.members.map .string)).isIntegral = true :=
    Json.every_array.mpr ⟨rfl, by simp [Value.every, Json.notFloat]⟩
  refine Json.every_object.mpr ⟨rfl, ?_⟩
  simp only [List.forall_mem_cons]
  exact ⟨rfl, rfl, rfl, rfl, members, rfl, by simp⟩

/-- A reply is not nested deep. -/
theorem Reply.depth_toJson_le (reply : Reply) : reply.toJson.depth ≤ Json.depthLimit := by
  have members : Json.depthOfItems (reply.members.map Value.string) = 0 := by
    induction reply.members with
    | nil => rfl
    | cons member rest inductionHypothesis =>
      simp [Json.depthOfItems, Value.depth, inductionHypothesis]
  simp [toJson, Name.toJson, Tally.toJson, Value.depth, Json.depthOfMembers, Value.ofUInt32,
    members, Json.depthLimit]

end Quorum

namespace CacheWrite

/-- The document that stores an answer is read as its name and its record. -/
theorem reads (name : Name) (answer : Answer) :
    Reads decoder (toJson name answer) ⟨some name.text, some (Json.sortKeys answer.toJson)⟩ := by
  have record := reads_optional "record" (Json.reads_any answer.isOpen_toJson)
    (by simp [Answer.toJson])
  have named := (reads_optional "name" (Json.reads_text name.text) (by simp)).both record
    (ignores_of_notMem (by simp) _ _ _)
  exact (named.map _).record "StoreRecordRequest"

/-- The document that stores an answer asks to store that answer under that name. -/
theorem entry_eq (name : Name) (answer : Answer) :
    entry ⟨some name.text, some (Json.sortKeys answer.toJson)⟩ = .ok (name, answer) := by
  have read : Answer.decoder.decodeValue (Json.sortKeys answer.toJson) = .ok answer :=
    answer.reads_sortKeys .value
  simp only [entry, read, Name.parse_text]
  rfl

end CacheWrite

namespace Policy.Decision

/-- A decision as it comes out of a document: its state is called by its name, no other member
is called the state, and the other members are in ascending order at every depth. -/
structure InOrder (decision : Decision) : Prop where
  named : State.ofText decision.state.text = decision.state
  apart : "state" ∉ decision.extra.map Prod.fst
  ascending : Json.Ascending decision.extra
  canonical : ∀ member ∈ decision.extra, member.2.Canonical

/-- The state that a text names has that text. -/
theorem text_ofText (text : String) : (State.ofText text).text = text := by
  unfold State.ofText
  split
  · next same => exact same.symm
  · split
    · next same => exact same.symm
    · split
      · next same => exact same.symm
      · rfl

/-- Members of a decision that were met: the state is called by its name, and what is collected
beside it is not called the state. -/
def Draft.Sound (draft : Draft) : Prop :=
  (∀ state ∈ draft.state, State.ofText state.text = state) ∧
    ∀ member ∈ draft.collected, member.1.read ≠ .ok "state"

/-- A member more leaves a draft sound. -/
theorem sound_of_take {source : Json.Source} {key : String} {tree : Json.Tree}
    {draft changed : Draft} (sound : draft.Sound)
    (taken : take source key tree draft = .ok changed) : changed.Sound := by
  obtain ⟨named, apart⟩ := sound
  unfold take at taken
  split at taken
  · split at taken
    · cases taken
    · obtain ⟨state, stateRead, rfl⟩ := ok_of_map taken
      obtain ⟨text, -, rfl⟩ := ok_of_map stateRead
      refine ⟨fun known same => ?_, apart⟩
      cases same
      rw [text_ofText]
  · next different =>
    obtain ⟨-, -, rfl⟩ := ok_of_map taken
    refine ⟨named, fun member belongs => ?_⟩
    rcases List.mem_cons.mp belongs with rfl | earlier
    · simpa using different
    · exact apart member earlier

/-- A decision that is read is in order. -/
theorem inOrder_of_decoder {source : Json.Source} {tree : Json.Tree} {decision : Decision}
    (read : decoder source tree = .ok decision) : decision.InOrder := by
  unfold decoder at read
  split at read
  · obtain ⟨draft, took, checked⟩ := ok_of_bind read
    obtain ⟨-, -, finished⟩ := ok_of_bind checked
    have sound : draft.Sound := by
      refine Json.takeMembers_preserves Draft.Sound ?_ ⟨by simp, by simp⟩ took
      intro key tree draft changed holds changes
      exact sound_of_take holds (Option.some.inj changes)
    split at finished
    · cases finished
    · next state met =>
      obtain ⟨extra, extraRead, same⟩ := ok_of_bind finished
      cases same
      obtain ⟨ascending, canonical⟩ := Json.canonical_of_ofTrees extraRead
      refine ⟨sound.1 state met, fun called => ?_, ascending, canonical⟩
      rcases Json.key_of_readMembers extraRead called with earlier | ⟨member, belongs, keyRead⟩
      · cases earlier
      · exact sound.2 member (List.mem_reverse.mp belongs) keyRead
  · next tree =>
    obtain ⟨found, -, wrong⟩ := ok_of_bind read
    cases wrong

/-- Members beside the state are collected, the latest first. -/
theorem takeMembers_extra (source : Json.Source) (state : Option State) {extra : List Json.Member}
    (apart : "state" ∉ extra.map Prod.fst) (collected : List (Json.Token String × Json.Tree)) :
    Json.takeMembers (fun key tree draft => some (take source key tree draft)) ⟨state, collected⟩
        (extra.map Json.Tree.ofMember) =
      .ok ⟨state, (extra.map Json.Tree.ofMember).reverse ++ collected⟩ := by
  induction extra generalizing collected with
  | nil => rfl
  | cons member rest inductionHypothesis =>
    simp only [List.map_cons, List.mem_cons, not_or] at apart
    have taken : take source member.1 (Json.Tree.ofValue member.2) ⟨state, collected⟩ =
        .ok ⟨state, Json.Tree.ofMember member :: collected⟩ := by
      rw [take, if_neg (Ne.symm apart.1), Json.check_ofValue]
      rfl
    simp only [List.map_cons, Json.Tree.ofMember, Json.takeMembers, taken]
    rw [inductionHypothesis apart.2]
    simp

/-- A decision is made of the state, wherever it stands, and of what the other members are read
as. -/
theorem decoder_ofValue (source : Json.Source) {state : State}
    (named : State.ofText state.text = state) {front back : List Json.Member}
    (apart : "state" ∉ (front ++ back).map Prod.fst) :
    decoder source (Json.Tree.ofValue (.object (front ++ ("state", state.toJson) :: back))) =
      (Json.Member.ofTrees .collected ((front ++ back).map Json.Tree.ofMember)).map
        fun extra => ⟨state, extra⟩ := by
  rw [List.map_append, List.mem_append, not_or] at apart
  have stateTaken : ∀ collected, take source "state" (Json.Tree.ofValue state.toJson)
      ⟨none, collected⟩ = .ok ⟨some state, collected⟩ := by
    intro collected
    change Except.ok (Draft.mk (some (State.ofText state.text)) collected) = _
    rw [named]
  have took : Json.takeMembers (fun key tree draft => some (take source key tree draft)) ⟨none, []⟩
      ((front ++ ("state", state.toJson) :: back).map Json.Tree.ofMember) =
        .ok ⟨some state, ((front ++ back).map Json.Tree.ofMember).reverse⟩ := by
    rw [List.map_append, Json.takeMembers_append, takeMembers_extra source none apart.1 []]
    simp only [bind, Except.bind, List.map_cons, Json.Tree.ofMember, Json.takeMembers, stateTaken]
    rw [takeMembers_extra source (some state) apart.2]
    simp
  rw [Json.ofValue_object]
  simp only [decoder, took]
  simp only [bind, Except.bind, Option.map_none, Json.raise?, List.reverse_reverse]
  cases Json.Member.ofTrees .collected ((front ++ back).map Json.Tree.ofMember) <;> rfl

/-- A decision in order is read from an object with its members in any order, if these are
open. -/
theorem reads_of_perm {decision : Decision} (inOrder : decision.InOrder)
    (opened : ∀ member ∈ decision.extra, member.2.isOpen = true) {order : List Json.Member}
    (permuted : (("state", decision.state.toJson) :: decision.extra).Perm order) :
    Reads decoder (.object order) decision := by
  obtain ⟨state, extra⟩ := decision
  intro source
  obtain ⟨front, back, rfl⟩ := List.append_of_mem (permuted.mem_iff.mp List.mem_cons_self)
  have others : extra.Perm (front ++ back) :=
    (List.perm_cons _).mp (permuted.trans List.perm_middle)
  have apart : "state" ∉ (front ++ back).map Prod.fst :=
    fun named => inOrder.apart ((others.map Prod.fst).mem_iff.mpr named)
  have extraRead : Json.Member.ofTrees .collected ((front ++ back).map Json.Tree.ofMember) =
      .ok extra := by
    rw [Json.Member.ofTrees, Json.readMembers_ofMember _ _ fun member belongs =>
      Json.valueWith_ofValue _ _ (opened member (others.mem_iff.mpr belongs))]
    rw [inOrder.ascending.sortKeysMembers_of_perm inOrder.canonical others]
  rw [decoder_ofValue source inOrder.named apart, extraRead]
  rfl

/-- A decision in order is read as that decision, if its document is open. -/
theorem reads {decision : Decision} (inOrder : decision.InOrder)
    (opened : decision.toJson.isOpen = true) : Reads decoder decision.toJson decision :=
  reads_of_perm inOrder
    (fun member belongs => (Json.every_object.mp opened).2 member (List.mem_cons_of_mem _ belongs))
    (.refl _)

/-- A decision in order is reread as that decision, if its document is open. Sorting puts the state
among the other members. -/
theorem rereads {decision : Decision} (inOrder : decision.InOrder)
    (opened : decision.toJson.isOpen = true) : Rereads decoder decision.toJson decision where
  plain := reads inOrder opened
  sorted := by
    have each : ∀ member ∈ decision.extra, member.2.isOpen = true := fun member belongs =>
      (Json.every_object.mp opened).2 member (List.mem_cons_of_mem _ belongs)
    have distinct : ((("state", decision.state.toJson) :: decision.extra).map Prod.fst).Nodup :=
      List.nodup_cons.mpr ⟨inOrder.apart, inOrder.ascending.nodup_keys⟩
    have still : Json.Fields.sortedValues (("state", decision.state.toJson) :: decision.extra) =
        ("state", decision.state.toJson) :: decision.extra := by
      refine congrArg (("state", decision.state.toJson) :: ·)
        ((List.map_congr_left fun member belongs => ?_).trans (List.map_id decision.extra))
      rw [(inOrder.canonical member belongs).sortKeys_eq, id]
    have placed := Json.perm_sortKeysMembers [] _ distinct
    refine reads_of_perm inOrder each (List.Perm.symm ?_)
    rwa [← Json.Fields.sortedValues, still] at placed

end Policy.Decision

namespace Resolution

/-- An origin is reread as that origin. -/
theorem Origin.rereads (origin : Origin) : Rereads Origin.decoder origin.toJson origin := by
  refine Reads.rereads (fun source => ?_) rfl
  cases origin <;> cases source <;> rfl

/-- A resolution is made of what its decision is read as. -/
theorem decoder_ofValue (resolution : Resolution) (source : Json.Source) :
    decoder source (Json.Tree.ofValue resolution.toJson) =
      (Policy.Decision.decoder source (Json.Tree.ofValue resolution.policy.toJson)).map
        fun policy => ⟨resolution.name, policy, resolution.answer, resolution.origin⟩ := by
  have name := resolution.name.rereads.plain source
  have answer := resolution.answer.reads source
  have origin := (Json.rereads_nullable Origin.rereads (fun _ => by simp [Origin.toJson])
    resolution.origin).plain source
  cases policy : Policy.Decision.decoder source (Json.Tree.ofValue resolution.policy.toJson) <;>
    simp [decoder, toJson, Json.Decoder.record, Json.takeMembers, Json.Tree.ofMember, fields,
      Json.Fields.map, Json.Fields.both, Json.Fields.required, Json.Fields.optional,
      Json.Fields.one, name, answer, origin, policy, Except.map, bind, Except.bind, pure,
      Except.pure, Json.raise?]

/-- A resolution is reread as that resolution, if its decision is in order and the document of the
decision is open. -/
theorem rereads {resolution : Resolution} (inOrder : resolution.policy.InOrder)
    (opened : resolution.policy.toJson.isOpen = true) :
    Rereads decoder resolution.toJson resolution := by
  have origin := rereads_optional "source" Origin.rereads (fun _ => by simp [Origin.toJson])
    resolution.origin
  have answer := origin.behind "answer" resolution.answer.rereads (by simp)
  have policy := answer.behind "policy" (Policy.Decision.rereads inOrder opened) (by simp)
  have name := policy.behind "name" resolution.name.rereads (by simp)
  exact (name.map _).record
    ((orderly_one.both (orderly_one.both (orderly_one.both orderly_one))).map _) (by simp)
    "ResolutionResult"

/-- A resolution is written with its decision one level deeper. -/
theorem depth_toJson (resolution : Resolution) :
    resolution.toJson.depth = max resolution.policy.toJson.depth 1 + 1 := by
  have source : (Value.ofOption Origin.toJson resolution.origin).depth = 0 := by
    cases resolution.origin <;> rfl
  simp [toJson, Value.depth, Json.depthOfMembers, source, Name.toJson, Answer.toJson,
    Value.ofUInt32]

/-- What holds of every part of a decision and of scalars holds of every part of a resolution,
if it holds of objects that begin like a resolution and like an answer. -/
theorem every_toJson {test : Value → Bool} {resolution : Resolution}
    (policy : resolution.policy.toJson.every test = true)
    (text : ∀ text, test (.string text) = true) (null : test .null = true)
    (word : ∀ word, test (.ofUInt32 word) = true)
    (object : ∀ key value rest, key ≠ Json.enclosureKey →
      test (.object ((key, value) :: rest)) = true) :
    resolution.toJson.every test = true := by
  have answer : resolution.answer.toJson.every test = true := by
    refine Json.every_object.mpr ⟨object _ _ _ (by decide), ?_⟩
    simp only [List.forall_mem_cons]
    exact ⟨text _, word _, text _, by simp⟩
  refine Json.every_object.mpr ⟨object _ _ _ (by decide), ?_⟩
  simp only [List.forall_mem_cons]
  refine ⟨text _, policy, answer, ?_, by simp⟩
  cases resolution.origin with
  | none => exact null
  | some origin => exact text _

/-- All numbers of a resolution are integers if those of its decision are. -/
theorem isIntegral_toJson {resolution : Resolution}
    (integral : resolution.policy.toJson.isIntegral = true) :
    resolution.toJson.isIntegral = true :=
  every_toJson integral (fun _ => rfl) rfl (fun _ => rfl) fun _ _ _ _ => rfl

/-- A resolution is written as an open document if its decision is. -/
theorem isOpen_toJson {resolution : Resolution}
    (opened : resolution.policy.toJson.isOpen = true) : resolution.toJson.isOpen = true :=
  every_toJson opened (fun _ => rfl) rfl (fun _ => rfl) fun _ value rest different =>
    Json.notEnclosure_object different value rest

/-- The request to store the answer of a resolution is shorter than the resolution. -/
theorem length_cacheWrite_le (resolution : Resolution) :
    (CacheWrite.toJson resolution.name resolution.answer).compact.length ≤
      resolution.toJson.compact.length := by
  have record : (Json.spelledString "record").length = 8 := rfl
  have answer : (Json.spelledString "answer").length = 8 := rfl
  simp only [Json.compact_eq, CacheWrite.toJson, toJson, Value.spelled, Json.spelledMembers,
    Json.separator, List.length_cons, List.length_append, record, answer, if_true,
    Bool.false_eq_true, if_false]
  omega

end Resolution

end GatedResolver
