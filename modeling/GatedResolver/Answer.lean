import GatedResolver.Json.Decode

/-!
# Answers

What is known about a name: the type of a record, how long it may be kept, and its data.
-/

namespace GatedResolver

/-- The record that answers a question about a name. -/
structure Answer where
  recordType : String
  ttl : UInt32
  data : String
deriving DecidableEq

namespace Answer

/-- An answer as a JSON value. -/
def toJson (answer : Answer) : Json.Value :=
  .object [("type", .string answer.recordType), ("ttl", .ofUInt32 answer.ttl),
    ("data", .string answer.data)]

/-- The fields of an answer. -/
def fields : Json.Fields Answer :=
  ((Json.Fields.required "type" .text).both
    ((Json.Fields.required "ttl" .uint32).both (Json.Fields.required "data" .text))).map
      fun (recordType, ttl, data) => ⟨recordType, ttl, data⟩

/-- Read an answer. -/
def decoder : Json.Decoder Answer :=
  .record "Answer" fields

end Answer

end GatedResolver
