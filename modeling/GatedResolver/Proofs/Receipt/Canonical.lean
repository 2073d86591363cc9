import GatedResolver.Proofs.Json.Readability
import GatedResolver.Proofs.Json.Rearrangement
import GatedResolver.Receipt.Signing

/-!
# What a signature binds

The canonical form of a payload tells the payload up to the order of members (`canonical_eq_iff`),
in whatever order the members are kept (`canonical_rearranged`). So a signature that fits two
payloads which differ in more than that exhibits two byte strings with one keyed digest
(`collide_of_verify`).
-/

namespace GatedResolver.Receipt

open Json (Value)

/-- Two payloads have one id, one time, and one record up to the order of members. -/
structure Payload.Alike (left right : Payload) : Prop where
  id : left.id = right.id
  timestamp : left.timestamp = right.timestamp
  record : left.record.Rearranged right.record

/-- Two different byte strings have one keyed digest. -/
def Collide (secret left right : Bytes) : Prop :=
  left ≠ right ∧ Digest.hmac secret left = Digest.hmac secret right

namespace Payload

/-- The sorted form of a payload. -/
theorem sortKeys_toJson (payload : Payload) :
    Json.sortKeys payload.toJson = .object [("id", .string payload.id),
      ("payload", Json.sortKeys payload.record), ("timestamp", .ofInt64 payload.timestamp)] := by
  have behindId : ¬ "timestamp" < "id" ∧ ¬ "payload" < "id" := by decide
  have beforeTime : "payload" < "timestamp" := by decide
  simp [toJson, Json.sortKeys, Json.sortKeysMembers, Json.insertMember, Value.ofInt64, behindId,
    beforeTime]

/-- Payloads with one canonical form have one id, one time, and one record in sorted form. -/
theorem eq_of_canonical_eq {left right : Payload} (same : left.canonical = right.canonical) :
    left.id = right.id ∧ left.timestamp = right.timestamp ∧
      Json.sortKeys left.record = Json.sortKeys right.record := by
  have sorted : Json.sortKeys left.toJson = Json.sortKeys right.toJson :=
    Json.compact_injective same
  rw [sortKeys_toJson, sortKeys_toJson] at sorted
  simp only [Value.object.injEq, List.cons.injEq, Prod.mk.injEq, Value.string.injEq,
    Value.ofInt64, Value.number.injEq, Json.Number.ofInt64, Json.Number.integer.injEq,
    Int64.toInt_inj, true_and, and_true] at sorted
  obtain ⟨ids, records, times⟩ := sorted
  exact ⟨ids, times, records⟩

/-- Payloads that one signature fits have one id, one time, and one record in sorted form, unless two
different byte strings have one keyed digest. -/
theorem eq_or_collide_of_verify {key : Key} {signature : String} {left right : Payload}
    (leftFits : key.verify ⟨left, signature⟩ = true)
    (rightFits : key.verify ⟨right, signature⟩ = true) :
    (left.id = right.id ∧ left.timestamp = right.timestamp ∧
      Json.sortKeys left.record = Json.sortKeys right.record) ∨
      Collide key.secret left.canonical right.canonical := by
  by_cases same : left.canonical = right.canonical
  · exact .inl (eq_of_canonical_eq same)
  · refine .inr ⟨same, ?_⟩
    unfold Key.verify at leftFits rightFits
    cases digits : Text.readHex? signature with
    | none =>
      rw [digits] at leftFits
      cases leftFits
    | some digest =>
      rw [digits] at leftFits rightFits
      exact (eq_of_beq leftFits).symm.trans (eq_of_beq rightFits)

/-- A payload is keyed if its record is. -/
theorem isKeyed_toJson {payload : Payload} (keyed : payload.record.isKeyed = true) :
    payload.toJson.isKeyed = true := by
  refine Json.every_object.mpr ⟨?_, ?_⟩
  · simp [Json.distinctKeys]
  · simp only [List.forall_mem_cons]
    exact ⟨rfl, rfl, keyed, by simp⟩

variable {left right : Payload} (leftKeyed : left.record.isKeyed = true)
  (rightKeyed : right.record.isKeyed = true)

include leftKeyed in
/-- A payload in another order of members has the same canonical form. -/
theorem canonical_rearranged {kept : Value} (rearranged : left.toJson.Rearranged kept) :
    Receipt.canonical kept = left.canonical := by
  rw [canonical, Receipt.canonical, Receipt.canonical,
    rearranged.sortKeys_eq (isKeyed_toJson leftKeyed)]

include leftKeyed rightKeyed

/-- Payloads have one canonical form exactly if they are alike. -/
theorem canonical_eq_iff : left.canonical = right.canonical ↔ left.Alike right := by
  constructor
  · intro same
    obtain ⟨ids, times, records⟩ := eq_of_canonical_eq same
    exact ⟨ids, times, (Json.sortKeys_eq_iff leftKeyed rightKeyed).mp records⟩
  · rintro ⟨ids, times, records⟩
    rw [canonical, canonical, Receipt.canonical, Receipt.canonical, sortKeys_toJson,
      sortKeys_toJson, ids, times, records.sortKeys_eq leftKeyed]

/-- A signature that was made for a payload fits no other one that is not alike, unless two
different byte strings have one keyed digest. -/
theorem collide_of_verify {key : Key} (different : ¬ left.Alike right)
    (verified : key.verify ⟨right, key.sign left⟩ = true) :
    Collide key.secret left.canonical right.canonical := by
  constructor
  · rwa [ne_eq, canonical_eq_iff leftKeyed rightKeyed]
  · simpa [Key.verify, Key.sign, signBytes] using verified

end Payload

/-- The canonical form of payloads tells them up to the order of members, in whatever order the
members are kept; so a signature for one payload that fits another one, which differs in more than
the order of members, exhibits two different byte strings with one keyed digest. -/
theorem canonical_binds {left right : Payload} (leftKeyed : left.record.isKeyed = true)
    (rightKeyed : right.record.isKeyed = true) :
    (left.canonical = right.canonical ↔ left.Alike right) ∧
    (∀ leftKept rightKept, left.toJson.Rearranged leftKept → right.toJson.Rearranged rightKept →
      (canonical leftKept = canonical rightKept ↔ left.Alike right)) ∧
    (∀ key : Key, ¬ left.Alike right → key.verify ⟨right, key.sign left⟩ = true →
      Collide key.secret left.canonical right.canonical) := by
  refine ⟨Payload.canonical_eq_iff leftKeyed rightKeyed, ?kept, ?collide⟩
  case kept =>
    intro leftKept rightKept leftOrder rightOrder
    rw [Payload.canonical_rearranged leftKeyed leftOrder,
      Payload.canonical_rearranged rightKeyed rightOrder]
    exact Payload.canonical_eq_iff leftKeyed rightKeyed
  case collide =>
    intro key different verified
    exact Payload.collide_of_verify leftKeyed rightKeyed different verified

/-- A payload with a record of two members. -/
def twoMembers (id first second : String) : Payload :=
  ⟨id, 0, .object [(first, .boolean true), (second, .boolean true)]⟩

/-- Two payloads with one id and the same members in different order have one canonical form, and
a payload with another id has another one. -/
theorem canonical_binds_twoMembers :
    (twoMembers "aa" "a" "b").canonical = (twoMembers "aa" "b" "a").canonical ∧
      (twoMembers "aa" "a" "b").canonical ≠ (twoMembers "bb" "a" "b").canonical := by
  constructor
  · exact (canonical_binds (by decide) (by decide)).1.mpr ⟨rfl, rfl, .members (.swap _ _ _)⟩
  · intro same
    have alike := (canonical_binds (by decide) (by decide)).1.mp same
    exact absurd alike.id (by decide)

end GatedResolver.Receipt
