import GatedResolver.Proofs.Json.Slots
import GatedResolver.Proofs.Remote.Documents
import GatedResolver.Proofs.Remote.Unusable
import GatedResolver.Quorum.Panel

/-!
# What tallies require

A tally is meant to require at least one answer, so that nobody's silence meets it. Panels keep to
that whatever their members and their settings are, and what they write is read back as it is. The
reader of tallies takes any word, though: a document that asks for no answer at all is taken as it
is, and its tally is always met.
-/

namespace GatedResolver

open Json (Decoder Document Fields Number Tree)
open Json.Fields (Slot)

namespace Json

/-- A part of a document is a number. -/
def Tree.IsNumber (part : Tree) (number : Number) : Prop :=
  ∃ token, part = .number token ∧ token.read = .ok number

/-- A part of a document is at most one number. -/
theorem Tree.IsNumber.unique {part : Tree} {left right : Number} (isLeft : part.IsNumber left)
    (isRight : part.IsNumber right) : left = right := by
  obtain ⟨token, rfl, leftRead⟩ := isLeft
  obtain ⟨other, same, rightRead⟩ := isRight
  cases same
  exact Except.ok.inj (leftRead.symm.trans rightRead)

/-- A 32-bit word is read from the number that it is. -/
theorem isNumber_of_uint32 {source : Source} {part : Tree} {word : UInt32}
    (read : Decoder.uint32 source part = .ok word) : part.IsNumber (.ofUInt32 word) := by
  obtain ⟨value, valueRead, rfl⟩ := ok_of_map read
  cases part with
  | number token =>
    obtain ⟨number, tokenRead, checked⟩ := ok_of_bind valueRead
    refine ⟨token, rfl, tokenRead.trans (congrArg _ ?_)⟩
    cases number with
    | integer written within =>
      dsimp only at checked
      split at checked
      · next inRange =>
        cases checked
        simp only [Decoder.range32] at inRange
        have whole : (UInt32.ofNat value.toNat).toNat = value.toNat :=
          UInt32.toNat_ofNat_of_lt' (by simp only [UInt32.size]; omega)
        simp only [Number.ofUInt32, Number.integer.injEq, whole]
        omega
      · cases checked
    | float => cases checked
  | _ => exact absurd valueRead (mismatch_ne_ok _ _ _)

/-- Words that are the same number are the same. -/
theorem ofUInt32_injective : Function.Injective Number.ofUInt32 := by
  intro left right same
  simp only [Number.ofUInt32, Number.integer.injEq] at same
  exact UInt32.toNat_inj.mp (Int.ofNat_inj.mp same)

end Json

namespace Quorum

/-- A tally requires an answer, and so is met only if there is one. -/
structure Tally.RequiresAnswer (tally : Tally) : Prop where
  required : 1 ≤ tally.required
  answered : tally.isMet = true → 1 ≤ tally.responded

/-- A tally that requires an answer is met only by one. -/
theorem Tally.requiresAnswer_iff {tally : Tally} :
    tally.RequiresAnswer ↔ 1 ≤ tally.required := by
  refine ⟨RequiresAnswer.required, fun required => ⟨required, fun met => ?_⟩⟩
  exact UInt32.le_trans required (of_decide_eq_true met)

/-- The tally of a panel requires an answer, whatever its members and its settings are. -/
theorem Tally.requiresAnswer_ofMembers (members : Nat) (explicit : Option UInt32) :
    (ofMembers members explicit).RequiresAnswer :=
  requiresAnswer_iff.mpr (one_le_required_ofMembers members explicit)

/-- A tally is read back from its text. -/
theorem Tally.decode_compact (tally : Tally) : decoder.decode tally.toJson.compact = .ok tally :=
  tally.rereads.plain.decode_compact rfl (by
    simp [toJson, Json.Value.depth, Json.depthOfMembers, Json.Value.ofUInt32, Json.depthLimit])

/-- The place of the required number in a tally. -/
def requiredSlot (source : Json.Source) (default : UInt32) :
    Slot Tally.fields source "required" 0 .uint32 default Tally.required :=
  .map ((Slot.required _ _ _ _).left _) fun _ => rfl

/-- The place of the tally in a reply. -/
def tallySlot (source : Json.Source) (default : Tally) :
    Slot Reply.fields source "quorum" 5 Tally.decoder default Reply.tally :=
  .map (.behind (by decide) (.behind (by decide) (.behind (by decide) (.behind (by decide)
    (.behind (by decide) (.required _ _ _ _)))))) fun _ => rfl

/-- A tally that was read requires an answer unless its document says zero. -/
theorem Tally.requiresAnswer_of_decoder {source : Json.Source} {tree : Tree} {tally : Tally}
    (read : Tally.decoder source tree = .ok tally) :
    ∃ part, tree.part? "required" 0 = some part ∧ part.IsNumber (.ofUInt32 tally.required) ∧
      (tally.RequiresAnswer ↔ ¬ part.IsNumber (.ofUInt32 0)) := by
  have several : Nontrivial UInt32 := ⟨0, 1, by simp⟩
  obtain ⟨part, found, partRead⟩ := Slot.part_of_record (requiredSlot source) read
  have isRequired := Json.isNumber_of_uint32 partRead
  refine ⟨part, found, isRequired, requiresAnswer_iff.trans ?_⟩
  constructor
  · intro required isZero
    have same := Json.ofUInt32_injective (isRequired.unique isZero)
    rw [same] at required
    cases required
  · intro nonzero
    have differs : tally.required ≠ 0 := fun same => nonzero (same ▸ isRequired)
    exact UInt32.le_iff_toNat_le.mpr
      (Nat.pos_of_ne_zero fun zero => differs (UInt32.toNat_inj.mp zero))

/-- The tally of a reply that was read requires an answer unless the document says zero. -/
theorem Reply.requiresAnswer_of_decoder {source : Json.Source} {tree : Tree} {reply : Reply}
    (read : Reply.decoder source tree = .ok reply) :
    ∃ whole part, tree.part? "quorum" 5 = some whole ∧ whole.part? "required" 0 = some part ∧
      part.IsNumber (.ofUInt32 reply.tally.required) ∧
      (reply.tally.RequiresAnswer ↔ ¬ part.IsNumber (.ofUInt32 0)) := by
  have several : Nontrivial Tally := ⟨⟨0, 0⟩, ⟨1, 0⟩, by simp⟩
  obtain ⟨whole, found, wholeRead⟩ := Slot.part_of_record (tallySlot source) read
  obtain ⟨part, partFound, rest⟩ := Tally.requiresAnswer_of_decoder wholeRead
  exact ⟨whole, part, found, partFound, rest⟩

/-- The same of the text of a reply. -/
theorem Reply.requiresAnswer_of_decode {text : Bytes} {reply : Reply}
    (read : Reply.decoder.decode text = .ok reply) :
    ∃ whole part, (Document.ofText text).tree.part? "quorum" 5 = some whole ∧
      whole.part? "required" 0 = some part ∧
      (reply.tally.RequiresAnswer ↔ ¬ part.IsNumber (.ofUInt32 0)) := by
  obtain ⟨whole, part, found, partFound, -, requires⟩ :=
    Reply.requiresAnswer_of_decoder (Json.ok_of_readWith read).1
  exact ⟨whole, part, found, partFound, requires⟩

/-- A reply of a panel is read back from its text, and its tally requires an answer. -/
theorem Panel.requiresAnswer_of_decode {panel : Panel} {name : Name} {reply : Reply}
    (read : Reply.decoder.decode (panel.reply name).toJson.compact = .ok reply) :
    reply.tally.RequiresAnswer := by
  have written := (panel.reply name).reads.decode_compact (panel.reply name).isIntegral_toJson
    (panel.reply name).depth_toJson_le
  obtain rfl := Except.ok.inj (written.symm.trans read)
  exact Tally.requiresAnswer_ofMembers _ _

end Quorum

namespace Remote

/-- A client has a value only from a whole body that decodes to it. -/
theorem decode_of_value {α : Type} {client : Client} {decoder : Decoder α} {message : Message}
    {exchange : Exchange} {value : α} (taken : client.value decoder message exchange = .ok value) :
    ∃ status body, exchange = .answered status (.whole body) ∧
      decoder.decode body = .ok value := by
  cases exchange with
  | failed | silent => cases taken
  | answered status arrival =>
    cases arrival with
    | whole body => exact ⟨status, body, rfl, (Client.value_eq_ok_iff.mp taken).2⟩
    | broken | stalled =>
      simp only [Client.value, Client.received, bind, Except.bind, Client.decoded] at taken
      split at taken <;> cases taken

end Remote

namespace Quorum

/-- Which tallies require an answer, and so are met only by one. One that is made of members does,
with any setting. One that is read from a document does exactly if the document does not say zero
for what is required, be it on its own, in a reply, or in what a client takes for a reply of a
remote quorum. So those that are read back from the replies of a panel do. -/
theorem tallies_require_answer (members : Nat) (explicit : Option UInt32) (text : Bytes) :
    (Tally.ofMembers members explicit).RequiresAnswer ∧
    (∀ tally, Tally.decoder.decode text = .ok tally →
      ∃ part, (Document.ofText text).tree.part? "required" 0 = some part ∧
        (tally.RequiresAnswer ↔ ¬ part.IsNumber (.ofUInt32 0))) ∧
    (∀ reply, Reply.decoder.decode text = .ok reply →
      ∃ whole part, (Document.ofText text).tree.part? "quorum" 5 = some whole ∧
        whole.part? "required" 0 = some part ∧
        (reply.tally.RequiresAnswer ↔ ¬ part.IsNumber (.ofUInt32 0))) ∧
    (∀ (State : Type) (send : Remote.Message → StateM State Remote.Exchange) client name state
      reply, (Remote.askQuorum send client name state).1 = .ok reply →
        ∃ status body whole part,
          (send (.asking (Remote.withName client.url name.text)) state).1 =
            .answered status (.whole body) ∧
          (Document.ofText body).tree.part? "quorum" 5 = some whole ∧
          whole.part? "required" 0 = some part ∧
          (reply.tally.RequiresAnswer ↔ ¬ part.IsNumber (.ofUInt32 0))) ∧
    (∀ (panel : Panel) name reply,
      Reply.decoder.decode (panel.reply name).toJson.compact = .ok reply →
        reply.tally.RequiresAnswer) := by
  refine ⟨Tally.requiresAnswer_ofMembers members explicit, ?ofTally,
    fun reply => Reply.requiresAnswer_of_decode, ?ofClient,
    fun panel name reply => Panel.requiresAnswer_of_decode⟩
  case ofTally =>
    intro tally read
    obtain ⟨part, found, -, requires⟩ :=
      Tally.requiresAnswer_of_decoder (Json.ok_of_readWith read).1
    exact ⟨part, found, requires⟩
  case ofClient =>
    intro State send client name state reply taken
    obtain ⟨status, body, exchanged, read⟩ := Remote.decode_of_value taken
    obtain ⟨whole, part, found, partFound, requires⟩ := Reply.requiresAnswer_of_decode read
    exact ⟨status, body, whole, part, exchanged, found, partFound, requires⟩

/-- A document that asks for two of three answers does not say zero. -/
theorem tallies_require_answer_twoOfThree :
    let text := Text.utf8 "\x7b\"required\":2,\"responded\":3\x7d"
    Tally.ofMembers 3 none = ⟨2, 3⟩ ∧ (Tally.ofMembers 3 none).RequiresAnswer ∧
      Tally.decoder.decode text = .ok ⟨2, 3⟩ ∧
      ∃ part, (Document.ofText text).tree.part? "required" 0 = some part ∧
        ¬ part.IsNumber (.ofUInt32 0) := by
  intro text
  have written : text = (Tally.toJson ⟨2, 3⟩).compact := by decide +kernel
  have read : Tally.decoder.decode text = .ok ⟨2, 3⟩ := by
    rw [written, Tally.decode_compact]
  obtain ⟨ofMembers, ofTally, -⟩ := tallies_require_answer 3 none text
  obtain ⟨part, found, requires⟩ := ofTally _ read
  exact ⟨by decide, ofMembers, read, part, found,
    requires.mp (Tally.requiresAnswer_iff.mpr (by simp))⟩

/-- Documents that ask for no answer at all are taken as they are: without any answer their tally
is met. -/
theorem tally_met_by_nobody :
    let text := Text.utf8 "\x7b\"required\":0,\"responded\":0\x7d"
    let reply : Reply := ⟨⟨"example.com", by decide⟩, "A", 60, "203.0.113.10", [], ⟨0, 0⟩⟩
    Tally.decoder.decode text = .ok reply.tally ∧
      Reply.decoder.decode reply.toJson.compact = .ok reply ∧
      reply.tally.isMet = true ∧ ¬ 1 ≤ reply.tally.required ∧ ¬ 1 ≤ reply.tally.responded := by
  intro text reply
  have written : text = reply.tally.toJson.compact := by decide +kernel
  refine ⟨?_, reply.reads.decode_compact reply.isIntegral_toJson reply.depth_toJson_le, rfl,
    by decide, by decide⟩
  rw [written, Tally.decode_compact]

end Quorum

end GatedResolver
