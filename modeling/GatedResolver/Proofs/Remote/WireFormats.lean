import GatedResolver.Proofs.Json.Enclosures
import GatedResolver.Proofs.Receipt.Documents
import GatedResolver.Proofs.Remote.Documents
import GatedResolver.Stream.Envelope

/-!
# Wire formats

Answers, replies, resolutions, decisions, receipts, tickets and envelopes come back from the
compact text that they are sent as, whether they are read from it directly or through an untyped
value. A decision does so because of how the program comes by it: the member called the state
never hides among the other ones, and no state of its own has the name of a known one.

What travels inside decisions and receipts is arbitrary, and comes back exactly if it is open: an
object that begins with the key of enclosures is written like any other one, and read as something
else.
-/

namespace GatedResolver

open Json (Rereads RoundTrips Value)
open Json.Fields (orderly_one rereads_required)

/-- An answer comes back from its text. -/
theorem Answer.roundTrips (answer : Answer) : RoundTrips decoder answer.toJson answer :=
  answer.rereads.roundTrips rfl answer.isOpen_toJson (by simp [toJson, Value.depth,
    Json.depthOfMembers, Value.ofUInt32, Json.depthLimit])

namespace Quorum.Reply

/-- A reply is written as an open document. -/
theorem isOpen_toJson (reply : Reply) : reply.toJson.isOpen = true := by
  have members : (Value.array (reply.members.map .string)).isOpen = true :=
    Json.every_array.mpr ⟨rfl, by simp [Value.every, Json.notEnclosure]⟩
  refine Json.every_object.mpr ⟨rfl, ?_⟩
  simp only [List.forall_mem_cons]
  exact ⟨rfl, rfl, rfl, rfl, members, rfl, by simp⟩

/-- A reply comes back from its text. -/
theorem roundTrips (reply : Reply) : RoundTrips decoder reply.toJson reply :=
  reply.rereads.roundTrips reply.isIntegral_toJson reply.isOpen_toJson reply.depth_toJson_le

end Quorum.Reply

/-- A ticket comes back from its text. -/
theorem Receipt.Ticket.roundTrips (ticket : Ticket) : RoundTrips decoder ticket.toJson ticket :=
  ticket.rereads.roundTrips rfl rfl (by simp [toJson, Value.depth, Json.depthOfMembers,
    Json.depthLimit])

namespace Stream.Envelope

/-- An envelope is reread as that envelope. -/
theorem rereads (envelope : Envelope) : Rereads decoder envelope.toJson envelope := by
  have timestamp := rereads_required "timestamp" (Json.rereads_int64 envelope.timestamp)
  have bytes := timestamp.behind "bytes" (Json.rereads_size envelope.bytes) (by simp)
  have protocol := bytes.behind "protocol" (Json.rereads_text envelope.protocol) (by simp)
  exact (protocol.map _).record ((orderly_one.both (orderly_one.both orderly_one)).map _) (by simp)
    "DotEnvelope"

/-- An envelope comes back from its text. -/
theorem roundTrips (envelope : Envelope) : RoundTrips decoder envelope.toJson envelope :=
  envelope.rereads.roundTrips rfl rfl (by simp [toJson, Value.depth, Json.depthOfMembers,
    Value.ofUInt64, Value.ofInt64, Json.depthLimit])

end Stream.Envelope

/-- A signed receipt whose record has integers only comes back from its text exactly if the record
is open. -/
theorem Receipt.Signed.roundTrips_iff {receipt : Signed}
    (canonical : receipt.payload.record.Canonical)
    (integral : receipt.payload.record.isIntegral = true)
    (shallow : receipt.toJson.depth ≤ Json.depthLimit) :
    RoundTrips decoder receipt.toJson receipt ↔ receipt.payload.record.isOpen = true := by
  constructor
  · intro roundTrips
    have read := roundTrips.decoder_ofValue (isIntegral_toJson integral) shallow
    rw [decoder_ofValue] at read
    obtain ⟨record, recordRead, same⟩ := ok_of_map read
    obtain rfl : record = receipt.payload.record :=
      congrArg (fun made : Signed => made.payload.record) same
    exact (Json.any_ofValue_iff canonical).mp recordRead
  · intro opened
    exact (rereads canonical opened).roundTrips (isIntegral_toJson integral) (isOpen_toJson opened)
      shallow

namespace Policy.Decision

/-- A decision that the program can come by: it is read from a document, or it is nothing but the
state that a text names. -/
inductive Obtained : Decision → Prop
  | read {source : Json.Source} {tree : Json.Tree} {decision : Decision}
      (taken : decoder source tree = .ok decision) : Obtained decision
  | named (text : String) : Obtained (ofState (State.ofText text))

/-- A decision that the program comes by is in order. -/
theorem Obtained.inOrder {decision : Decision} (obtained : decision.Obtained) :
    decision.InOrder := by
  cases obtained with
  | read taken => exact inOrder_of_decoder taken
  | named text =>
    exact ⟨congrArg State.ofText (text_ofText text), by simp [ofState], List.Pairwise.nil, by simp [ofState]⟩

/-- A state of its own has none of the known names. -/
theorem InOrder.ne_known {decision : Decision} (inOrder : decision.InOrder) {text : String}
    (own : decision.state = .other text) :
    text ≠ "ALLOW" ∧ text ≠ "BLOCK" ∧ text ≠ "UNKNOWN" := by
  have named := inOrder.named
  rw [own] at named
  refine ⟨?_, ?_, ?_⟩ <;> rintro rfl <;> cases named

/-- A decision in order is open if it is read as itself. -/
theorem InOrder.isOpen_toJson {decision : Decision} (inOrder : decision.InOrder)
    {source : Json.Source} (read : decoder source (Json.Tree.ofValue decision.toJson) = .ok decision) :
    decision.toJson.isOpen = true := by
  have made : decoder source (Json.Tree.ofValue decision.toJson) =
      (Json.Member.ofTrees .collected (decision.extra.map Json.Tree.ofMember)).map
        fun extra => ⟨decision.state, extra⟩ :=
    @decoder_ofValue source decision.state inOrder.named [] decision.extra inOrder.apart
  obtain ⟨extra, extraRead, same⟩ := ok_of_map (made.symm.trans read)
  obtain rfl : extra = decision.extra := congrArg Decision.extra same
  refine Json.every_object.mpr ⟨rfl, ?_⟩
  rw [List.forall_mem_cons]
  exact ⟨rfl, Json.isOpen_of_ofTrees inOrder.ascending inOrder.canonical extraRead⟩

/-- A decision that the program comes by and that has integers only comes back from its text exactly
if its document is open. -/
theorem roundTrips_iff {decision : Decision} (obtained : decision.Obtained)
    (integral : decision.toJson.isIntegral = true)
    (shallow : decision.toJson.depth ≤ Json.depthLimit) :
    RoundTrips decoder decision.toJson decision ↔ decision.toJson.isOpen = true :=
  ⟨fun roundTrips => obtained.inOrder.isOpen_toJson (roundTrips.decoder_ofValue integral shallow),
    fun opened => (rereads obtained.inOrder opened).roundTrips integral opened shallow⟩

end Policy.Decision

/-- A resolution under a decision that the program comes by and that has integers only comes back
from its text exactly if the document of the decision is open. -/
theorem Resolution.roundTrips_iff {resolution : Resolution} (obtained : resolution.policy.Obtained)
    (integral : resolution.policy.toJson.isIntegral = true)
    (shallow : resolution.toJson.depth ≤ Json.depthLimit) :
    RoundTrips decoder resolution.toJson resolution ↔ resolution.policy.toJson.isOpen = true := by
  constructor
  · intro roundTrips
    have read := roundTrips.decoder_ofValue (isIntegral_toJson integral) shallow
    rw [decoder_ofValue] at read
    obtain ⟨policy, policyRead, same⟩ := ok_of_map read
    obtain rfl : policy = resolution.policy := congrArg Resolution.policy same
    exact obtained.inOrder.isOpen_toJson policyRead
  · intro opened
    exact (rereads obtained.inOrder opened).roundTrips (isIntegral_toJson integral)
      (isOpen_toJson opened) shallow

/-- Everything that goes over the wire comes back from its compact text, directly and through the
untyped value of the text: answers, replies, tickets and envelopes always, and what embeds
arbitrary values within the limit of nesting and with integers only exactly if no object in them
begins with the key of enclosures. A decision that the program comes by has one member called the
state, and a state of its own has none of the known names. -/
theorem wireFormats_roundTrip (answer : Answer) (reply : Quorum.Reply) (ticket : Receipt.Ticket)
    (envelope : Stream.Envelope) (receipt : Receipt.Signed) (decision : Policy.Decision)
    (resolution : Resolution) :
    RoundTrips Answer.decoder answer.toJson answer ∧
    RoundTrips Quorum.Reply.decoder reply.toJson reply ∧
    RoundTrips Receipt.Ticket.decoder ticket.toJson ticket ∧
    RoundTrips Stream.Envelope.decoder envelope.toJson envelope ∧
    (receipt.payload.record.Canonical → receipt.payload.record.isIntegral = true →
      receipt.toJson.depth ≤ Json.depthLimit →
      (RoundTrips Receipt.Signed.decoder receipt.toJson receipt ↔
        receipt.payload.record.isOpen = true)) ∧
    (decision.Obtained →
      "state" ∉ decision.extra.map Prod.fst ∧
      (∀ text, decision.state = .other text → text ≠ "ALLOW" ∧ text ≠ "BLOCK" ∧ text ≠ "UNKNOWN") ∧
      (decision.toJson.isIntegral = true → decision.toJson.depth ≤ Json.depthLimit →
        (RoundTrips Policy.Decision.decoder decision.toJson decision ↔
          decision.toJson.isOpen = true))) ∧
    (resolution.policy.Obtained → resolution.policy.toJson.isIntegral = true →
      resolution.toJson.depth ≤ Json.depthLimit →
      (RoundTrips Resolution.decoder resolution.toJson resolution ↔
        resolution.policy.toJson.isOpen = true)) := by
  refine ⟨answer.roundTrips, reply.roundTrips, ticket.roundTrips, envelope.roundTrips,
    Receipt.Signed.roundTrips_iff, fun obtained => ?_, Resolution.roundTrips_iff⟩
  exact ⟨obtained.inOrder.apart, fun _ => obtained.inOrder.ne_known,
    Policy.Decision.roundTrips_iff obtained⟩

/-- A decision under review, with rules beside its state. -/
def Policy.Decision.reviewed : Policy.Decision where
  state := .other "REVIEW"
  extra :=
    [("rules", .array [.object [("deny", .string "\"a\u2028\""), ("weight", .ofInt64 (-1))]])]

/-- That decision, a resolution under it and the receipt of the resolution come back from their
texts. -/
theorem wireFormats_roundTrip_reviewed :
    let name : Name := ⟨"example.com", by decide⟩
    let answer : Answer := ⟨"A", 4294967295, "192.0.2.1"⟩
    let resolution : Resolution := ⟨name, .reviewed, answer, some .quorum⟩
    let receipt : Receipt.Signed :=
      ⟨⟨"ab", -9223372036854775808, Json.sortKeys resolution.toJson⟩, "\u0000"⟩
    RoundTrips Policy.Decision.decoder Policy.Decision.reviewed.toJson .reviewed ∧
      RoundTrips Resolution.decoder resolution.toJson resolution ∧
      RoundTrips Receipt.Signed.decoder receipt.toJson receipt := by
  intro name answer resolution receipt
  -- the policy names its rules before its state
  let policy : Value := .object (Policy.Decision.reviewed.extra ++ [("state", .string "REVIEW")])
  have taken : Policy.Decision.decoder .text (Json.Tree.ofValue policy) = .ok .reviewed := by
    decide +kernel
  have obtained : Policy.Decision.reviewed.Obtained := .read taken
  have record : Value.ofText resolution.toJson.compact = .ok receipt.payload.record :=
    Json.valueOfText_compact (by decide +kernel) (by decide +kernel) (by decide +kernel)
  have recorded : receipt.payload.record.Canonical := Json.canonical_of_ofTextWithin record
  obtain ⟨-, -, -, -, signed, decided, resolved⟩ := wireFormats_roundTrip answer
    ⟨name, "A", 0, "", ["first", "second"], ⟨2, 2⟩⟩ ⟨"ab", "receipt-ab.json"⟩
    ⟨"dot", 18446744073709551615, 0⟩ receipt .reviewed resolution
  exact ⟨((decided obtained).2.2 (by decide) (by decide)).mpr (by decide),
    (resolved obtained (by decide) (by decide +kernel)).mpr (by decide),
    (signed recorded (by decide +kernel) (by decide +kernel)).mpr (by decide +kernel)⟩

/-- A receipt whose record begins with the key of enclosures does not come back, although the record
has no numbers and is not nested. -/
theorem wireFormats_loses_trap :
    let receipt : Receipt.Signed := ⟨⟨"ab", 1, Receipt.trap⟩, ""⟩
    receipt.payload.record.Canonical ∧ receipt.payload.record.isIntegral = true ∧
      receipt.toJson.depth ≤ Json.depthLimit ∧
      Receipt.Signed.decoder.decode receipt.toJson.compact = .error .trailingComma ∧
      ¬ RoundTrips Receipt.Signed.decoder receipt.toJson receipt := by
  intro receipt
  have refused : Receipt.Signed.decoder.decode receipt.toJson.compact = .error .trailingComma :=
    Receipt.Signed.decode_compact_trap rfl
  refine ⟨Receipt.canonical_trap, by decide, by decide, refused, fun roundTrips => ?_⟩
  rw [RoundTrips, refused] at roundTrips
  cases roundTrips.1

end GatedResolver
