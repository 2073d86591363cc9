import GatedResolver.Proofs.Json.Beginnings
import GatedResolver.Proofs.Json.Rereading
import GatedResolver.Receipt.Basic

/-!
# Receipts read back

A signed receipt is read from its indented text as that receipt if its record is *storable*: its
members are in ascending order, each of its numbers is read as it is written, no object in it
begins with the key of enclosures, and it is nested no deeper than the two objects around it
leave room for.
-/

namespace GatedResolver.Receipt

open Json (Reads Rereads Value)
open Json.Fields (orderly_one rereads_required)

/-- A record that is read from the text of a receipt as it is. -/
structure Storable (record : Value) : Prop where
  canonical : record.Canonical
  legible : record.isLegible = true
  opened : record.isOpen = true
  shallow : record.depth + 2 ≤ Json.depthLimit

/-- A record with integers only is storable under the same bounds. -/
theorem Storable.of_isIntegral {record : Value} (canonical : record.Canonical)
    (integral : record.isIntegral = true) (opened : record.isOpen = true)
    (shallow : record.depth + 2 ≤ Json.depthLimit) : Storable record :=
  ⟨canonical, Json.isLegible_of_isIntegral integral, opened, shallow⟩

/-- A payload is reread as that payload. -/
theorem Payload.rereads {payload : Payload} (canonical : payload.record.Canonical)
    (opened : payload.record.isOpen = true) : Rereads Payload.decoder payload.toJson payload := by
  have record := rereads_required "payload" (Json.rereads_any canonical opened)
  have timestamp := record.behind "timestamp" (Json.rereads_int64 payload.timestamp) (by simp)
  have id := timestamp.behind "id" (Json.rereads_text payload.id) (by simp)
  exact (id.map _).record ((orderly_one.both (orderly_one.both orderly_one)).map _) (by simp)
    "ReceiptPayload"

/-- A payload is made of what its record is read as. -/
theorem Payload.decoder_ofValue (payload : Payload) (source : Json.Source) :
    Payload.decoder source (Json.Tree.ofValue payload.toJson) =
      (Json.Decoder.any source (Json.Tree.ofValue payload.record)).map
        fun record => ⟨payload.id, payload.timestamp, record⟩ := by
  have id := Json.reads_text payload.id source
  have timestamp := Json.reads_int64 payload.timestamp source
  cases record : Json.Decoder.any source (Json.Tree.ofValue payload.record) <;>
    simp [decoder, toJson, Json.Decoder.record, Json.takeMembers, Json.Tree.ofMember, fields,
      Json.Fields.map, Json.Fields.both, Json.Fields.required, Json.Fields.one, id, timestamp,
      record, Except.map, bind, Except.bind, pure, Except.pure, Json.raise?]

/-- A ticket is reread as that ticket. -/
theorem Ticket.rereads (ticket : Ticket) : Rereads Ticket.decoder ticket.toJson ticket := by
  have location := rereads_required "location" (Json.rereads_text ticket.location)
  have id := location.behind "id" (Json.rereads_text ticket.id) (by simp)
  exact (id.map _).record ((orderly_one.both orderly_one).map _) (by simp) "ReceiptTicket"

namespace Signed

/-- A signed receipt is made of what its record is read as. -/
theorem decoder_ofValue (receipt : Signed) (source : Json.Source) :
    Signed.decoder source (Json.Tree.ofValue receipt.toJson) =
      (Json.Decoder.any source (Json.Tree.ofValue receipt.payload.record)).map fun record =>
        ⟨⟨receipt.payload.id, receipt.payload.timestamp, record⟩, receipt.signature⟩ := by
  have payload := receipt.payload.decoder_ofValue source
  have signature := Json.reads_text receipt.signature source
  cases record : Json.Decoder.any source (Json.Tree.ofValue receipt.payload.record) <;>
    rw [record] at payload <;>
    simp [decoder, toJson, Json.Decoder.record, Json.takeMembers, Json.Tree.ofMember, fields,
      Json.Fields.map, Json.Fields.both, Json.Fields.required, Json.Fields.one, payload, signature,
      Except.map, bind, Except.bind, pure, Except.pure, Json.raise?]

/-- A signed receipt is reread as that receipt. -/
theorem rereads {receipt : Signed} (canonical : receipt.payload.record.Canonical)
    (opened : receipt.payload.record.isOpen = true) :
    Rereads Signed.decoder receipt.toJson receipt := by
  have signature := rereads_required "signature" (Json.rereads_text receipt.signature)
  have payload := signature.behind "payload" (Payload.rereads canonical opened) (by simp)
  exact (payload.map _).record ((orderly_one.both orderly_one).map _) (by simp) "SignedReceipt"

/-- A signed receipt is read as that receipt. -/
theorem reads {receipt : Signed} (canonical : receipt.payload.record.Canonical)
    (opened : receipt.payload.record.isOpen = true) : Reads Signed.decoder receipt.toJson receipt :=
  (rereads canonical opened).plain

/-- A signed receipt puts two objects around its record. -/
theorem depth_toJson (receipt : Signed) :
    receipt.toJson.depth = receipt.payload.record.depth + 2 := by
  simp [toJson, Payload.toJson, Value.depth, Json.depthOfMembers, Value.ofInt64]

/-- What holds of every part of a record and of scalars holds of every part of a receipt for the
record, if it holds of objects that begin with another key than that of enclosures. -/
theorem every_toJson {test : Value → Bool} {receipt : Signed}
    (record : receipt.payload.record.every test = true)
    (text : ∀ text, test (.string text) = true) (word : ∀ word, test (.ofInt64 word) = true)
    (object : ∀ key value rest, key ≠ Json.enclosureKey →
      test (.object ((key, value) :: rest)) = true) :
    receipt.toJson.every test = true := by
  have payload : receipt.payload.toJson.every test = true := by
    refine Json.every_object.mpr ⟨object _ _ _ (by decide), ?_⟩
    simp only [List.forall_mem_cons]
    exact ⟨text _, word _, record, by simp⟩
  refine Json.every_object.mpr ⟨object _ _ _ (by decide), ?_⟩
  simp only [List.forall_mem_cons]
  exact ⟨payload, text _, by simp⟩

/-- A signed receipt is legible if its record is. -/
theorem isLegible_toJson {receipt : Signed} (legible : receipt.payload.record.isLegible = true) :
    receipt.toJson.isLegible = true :=
  every_toJson legible (fun _ => rfl) (fun _ => Json.isReread_integer _) fun _ _ _ _ => rfl

/-- All numbers of a signed receipt are integers if those of its record are. -/
theorem isIntegral_toJson {receipt : Signed}
    (integral : receipt.payload.record.isIntegral = true) : receipt.toJson.isIntegral = true :=
  every_toJson integral (fun _ => rfl) (fun _ => rfl) fun _ _ _ _ => rfl

/-- A signed receipt is written as an open document if its record is open. -/
theorem isOpen_toJson {receipt : Signed} (opened : receipt.payload.record.isOpen = true) :
    receipt.toJson.isOpen = true :=
  every_toJson opened (fun _ => rfl) (fun _ => rfl) fun _ value rest different =>
    Json.notEnclosure_object different value rest

/-- A signed receipt with a storable record is read from its indented text. -/
theorem decode_indented {receipt : Signed} (storable : Storable receipt.payload.record) :
    Signed.decoder.decode receipt.toJson.indented = .ok receipt :=
  (reads storable.canonical storable.opened).decode_indented (isLegible_toJson storable.legible) (by
    rw [depth_toJson]
    exact storable.shallow)

/-- Whatever the record of a receipt is, what is read from the text of the receipt has its id. -/
theorem id_of_decode_indented {receipt other : Signed}
    (read : Signed.decoder.decode receipt.toJson.indented = .ok other) : other.id = receipt.id := by
  have treeRead := (Json.ok_of_readWith read).1
  obtain ⟨fuel, behind, enough, outer⟩ := Json.ofText_first "payload" receipt.payload.toJson
    [("signature", .string receipt.signature)]
  obtain ⟨payload, signature, payloadRead, rfl⟩ := Json.first_of_record outer treeRead
  obtain ⟨rest, inner⟩ := @Json.readTree_first .indented 1 fuel (Json.depthLimit - 2) enough "id"
    (.string receipt.payload.id)
    [("timestamp", .ofInt64 receipt.payload.timestamp), ("payload", receipt.payload.record)] behind
  rw [Json.readTree_string] at inner
  obtain ⟨id, others, idRead, rfl⟩ := Json.first_of_record inner payloadRead
  exact (Except.ok.inj idRead).symm

end Signed

/-- A record that begins with the key of enclosures once its members are in ascending order. -/
def trap : Value :=
  .object [(Json.enclosureKey, .string "1"), ("a", .null)]

/-- The members of that record are in ascending order. -/
theorem canonical_trap : trap.Canonical := by
  refine .object (List.pairwise_pair.mpr (by decide)) ?_
  simp only [List.forall_mem_cons]
  exact ⟨.string _, .null, by simp⟩

/-- A signed receipt with that record is not read. -/
theorem Signed.decoder_trap {receipt : Signed} (trapped : receipt.payload.record = trap) :
    Signed.decoder .text (Json.Tree.ofValue receipt.toJson) = .error .trailingComma := by
  have refused : Json.Decoder.any .text (Json.Tree.ofValue trap) = .error .trailingComma := by
    decide +kernel
  rw [Signed.decoder_ofValue, trapped, refused]
  rfl

/-- A signed receipt with that record is not read from its compact text. -/
theorem Signed.decode_compact_trap {receipt : Signed} (trapped : receipt.payload.record = trap) :
    Signed.decoder.decode receipt.toJson.compact = .error .trailingComma := by
  have integral : trap.isIntegral = true ∧ trap.depth + 2 ≤ Json.depthLimit := by decide
  rw [← trapped, ← depth_toJson] at integral
  rw [Json.Decoder.decode, (Json.isText_compact (isIntegral_toJson integral.1)).readWith_eq
    integral.2, Signed.decoder_trap trapped]

/-- A signed receipt with that record is not read from its indented text. -/
theorem Signed.decode_indented_trap {receipt : Signed} (trapped : receipt.payload.record = trap) :
    Signed.decoder.decode receipt.toJson.indented = .error .trailingComma := by
  have legible : trap.isLegible = true ∧ trap.depth + 2 ≤ Json.depthLimit := by decide
  rw [← trapped, ← depth_toJson] at legible
  rw [Json.Decoder.decode, (Json.isText_indented (isLegible_toJson legible.1)).readWith_eq
    legible.2, Signed.decoder_trap trapped]

end GatedResolver.Receipt
