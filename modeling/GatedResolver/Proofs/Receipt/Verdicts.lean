import GatedResolver.Proofs.Receipt.Binding
import GatedResolver.Proofs.Text.Hex

/-!
# Verdicts on signatures

Every payload has one signature under a key, but for the case of its letters: 64 hexadecimal
digits, the keyed digest of its canonical form. A lookup takes the signature in a file as it stands.
One that is too short, too long or no hexadecimal text at all does not fit, and is told as that
and not as a failure.
-/

namespace GatedResolver

namespace Receipt.Key

variable (key : Key) (payload : Payload)

/-- A signature has 64 characters. -/
theorem length_sign : (key.sign payload).length = 64 := by
  rw [sign, signBytes, Text.hex, String.length_ofList, Text.length_hexDigits, Digest.length_hmac]

/-- A signature consists of lower-case hexadecimal digits. -/
theorem isLowerHexDigit_of_mem_sign {character : Char}
    (member : character ∈ (key.sign payload).toList) : Text.isLowerHexDigit character = true := by
  rw [sign, signBytes, Text.hex, String.toList_ofList] at member
  exact Text.isLowerHexDigit_of_mem_hexDigits member

/-- A signature fits a payload if it is the signature of that payload, the case of its letters
aside. -/
theorem verify_iff (receipt : Signed) :
    key.verify receipt = true ↔ receipt.signature.toLower = key.sign receipt.payload := by
  rw [sign, signBytes, ← Text.readHex?_eq_some_iff, verify]
  cases Text.readHex? receipt.signature <;> simp

end Receipt.Key

/-- A text that nothing is signed with: it is too short or too long, or has a character that is no
hexadecimal digit of either case. -/
def Receipt.IsMisshapen (signature : String) : Prop :=
  signature.length ≠ 64 ∨
    ∃ character ∈ signature.toList, Text.isLowerHexDigit character.toLower = false

/-- A misshapen signature fits no payload. -/
theorem Receipt.Key.verify_of_isMisshapen (key : Key) {receipt : Signed}
    (misshapen : IsMisshapen receipt.signature) : key.verify receipt = false := by
  by_contra fits
  have same : receipt.signature.map Char.toLower = key.sign receipt.payload :=
    (key.verify_iff receipt).mp (eq_true_of_ne_false fits)
  rcases misshapen with length | ⟨character, member, other⟩
  · refine length ?_
    rw [← key.length_sign receipt.payload, ← same, String.length_map]
  · have digit : character.toLower ∈ (key.sign receipt.payload).toList := by
      rw [← same, String.toList_map]
      exact List.mem_map_of_mem member
    rw [key.isLowerHexDigit_of_mem_sign receipt.payload digit] at other
    cases other

namespace Archive

open FileSystem (pathIn)
open Receipt (fileName isFileId)

variable {key : Receipt.Key} {directory segment id : String} {world : World} {content : Bytes}

/-- A lookup shows the receipt that the file of the id holds, or tells that the file holds none. -/
theorem respond_of_read (digits : isFileId id = true) (names : Http.Names segment id)
    (held : world.files.read (pathIn directory (fileName id)) = .ok content) :
    respond key directory (lookupOf segment) world =
      match Receipt.Signed.decoder.decode content with
      | .ok receipt => (.json 200 (Receipt.Report.toJson ⟨receipt, key.verify receipt⟩), world)
      | .error fault => (.ofFailure (.serialization fault.message), world) := by
  have fetched : (signer key directory).ledger.fetch world id =
      Receipt.fetchFile directory world.files id := rfl
  rw [respond_lookupOf_names names, Receipt.Signer.report, fetched, Receipt.fetchFile_eq digits, held]
  simp only
  cases Receipt.Signed.decoder.decode content <;> rfl

/-- Reports that are written alike have the same verdict. -/
theorem verified_of_toJson {left right : Receipt.Report} (same : left.toJson = right.toJson) :
    left.verified = right.verified := by
  simp only [Receipt.Report.toJson, Json.Value.object.injEq, List.cons.injEq, Prod.mk.injEq,
    Json.Value.boolean.injEq, true_and, and_true] at same
  exact same.2.2

/-- A signature has 64 lower-case hexadecimal digits, and a text fits a payload exactly if it is the
signature of the payload, the case of its letters aside. Whatever is in the file of an id, a
lookup of the id shows the receipt that the bytes are read as, and tells that its signature fits
exactly if it is the hexadecimal text of the keyed digest of the canonical payload, the case of its
letters aside. A receipt with a misshapen signature is shown like any other one. -/
theorem verdict_on_signature (key : Receipt.Key) :
    (∀ payload : Receipt.Payload, (key.sign payload).length = 64 ∧
      (∀ character ∈ (key.sign payload).toList, Text.isLowerHexDigit character = true) ∧
      ∀ signature, key.verify ⟨payload, signature⟩ = true ↔ signature.toLower = key.sign payload) ∧
    ∀ (directory segment id : String) (world : World) (content : Bytes),
      isFileId id = true → Http.Names segment id →
      world.files.read (pathIn directory (fileName id)) = .ok content →
      ((∃ receipt, (respond key directory (lookupOf segment) world).1 =
          .json 200 (Receipt.Report.toJson ⟨receipt, true⟩)) ↔
        ∃ receipt, Receipt.Signed.decoder.decode content = .ok receipt ∧
          receipt.signature.toLower =
            Text.hex (Digest.hmac key.secret receipt.payload.canonical)) ∧
      ∀ receipt, Receipt.Signed.decoder.decode content = .ok receipt →
        ∃ verified, respond key directory (lookupOf segment) world =
          (.json 200 (Receipt.Report.toJson ⟨receipt, verified⟩), world) ∧
          (Receipt.IsMisshapen receipt.signature → verified = false) := by
  refine ⟨fun payload => ⟨key.length_sign payload,
    fun character member => key.isLowerHexDigit_of_mem_sign payload member,
    fun signature => key.verify_iff ⟨payload, signature⟩⟩, ?_⟩
  intro directory segment id world content digits names held
  rw [respond_of_read digits names held]
  cases decoded : Receipt.Signed.decoder.decode content with
  | error fault =>
    refine ⟨⟨?_, by rintro ⟨receipt, same, -⟩; cases same⟩, by rintro receipt same; cases same⟩
    rintro ⟨receipt, told⟩
    cases congrArg Http.Response.status told
  | ok receipt =>
    refine ⟨⟨?reported, ?fitting⟩, ?shown⟩
    case reported =>
      rintro ⟨other, told⟩
      have written := Json.compact_injective (congrArg Http.Response.body told)
      exact ⟨receipt, rfl, (key.verify_iff receipt).mp (verified_of_toJson written)⟩
    case fitting =>
      rintro ⟨other, same, fits⟩
      cases same
      have verified : key.verify receipt = true := (key.verify_iff receipt).mpr fits
      exact ⟨receipt, by simp only [verified]⟩
    case shown =>
      rintro other same
      cases same
      exact ⟨key.verify receipt, rfl, key.verify_of_isMisshapen⟩

/-- A receipt with its signature in capitals fits, and one with three digits of a signature does
not. -/
theorem verdict_on_signature_respelled :
    let shouted : Receipt.Signed := ⟨genuine.payload, genuine.signature.toUpper⟩
    let cut : Receipt.Signed := ⟨genuine.payload, "abc"⟩
    (∃ receipt, (respond ⟨[]⟩ "receipts" (lookupOf "bb") (copied shouted)).1 =
      .json 200 (Receipt.Report.toJson ⟨receipt, true⟩)) ∧
    (respond ⟨[]⟩ "receipts" (lookupOf "bb") (copied cut)).1 =
      .json 200 (Receipt.Report.toJson ⟨cut, false⟩) := by
  intro shouted cut
  have digits : isFileId "bb" = true := by decide
  have names := names_of_isFileId digits
  have storable : Receipt.Storable genuine.payload.record :=
    .of_isIntegral (.object (List.pairwise_singleton _ _) (by simpa using .string _)) (by decide)
      (by decide) (by decide)
  have held : ∀ receipt, (copied receipt).files.read (pathIn "receipts" (fileName "bb")) =
      .ok receipt.toJson.indented := fun _ => rfl
  have lookups := fun receipt => (verdict_on_signature ⟨[]⟩).2 "receipts" "bb" "bb" (copied receipt) _
    digits names (held receipt)
  have spelled := (verdict_on_signature ⟨[]⟩).1 genuine.payload
  constructor
  · refine (lookups shouted).1.mpr ⟨shouted, Receipt.Signed.decode_indented storable, ?_⟩
    exact Text.toLower_toUpper spelled.2.1
  · obtain ⟨verified, told, misshapen⟩ :=
      (lookups cut).2 cut (Receipt.Signed.decode_indented storable)
    rw [told, misshapen (.inl (by decide))]

end Archive

end GatedResolver
