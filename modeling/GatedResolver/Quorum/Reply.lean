import GatedResolver.Answer
import GatedResolver.Name
import GatedResolver.Quorum.Tally

/-!
# Replies of a quorum

A reply is an answer for a name together with the members that stand behind it and their
tally.
-/

namespace GatedResolver.Quorum

/-- What a quorum replies to a question about a name. -/
structure Reply where
  name : Name
  recordType : String
  ttl : UInt32
  data : String
  members : List String
  tally : Tally
deriving DecidableEq

namespace Reply

/-- The answer that a reply gives. -/
def answer (reply : Reply) : Answer :=
  ⟨reply.recordType, reply.ttl, reply.data⟩

/-- A reply as a JSON value. -/
def toJson (reply : Reply) : Json.Value :=
  .object [("name", reply.name.toJson), ("type", .string reply.recordType),
    ("ttl", .ofUInt32 reply.ttl), ("data", .string reply.data),
    ("upstreams", .array (reply.members.map .string)), ("quorum", reply.tally.toJson)]

/-- The fields of a reply. -/
def fields : Json.Fields Reply :=
  ((Json.Fields.required "name" Name.decoder).both
    ((Json.Fields.required "type" .text).both
      ((Json.Fields.required "ttl" .uint32).both
        ((Json.Fields.required "data" .text).both
          ((Json.Fields.required "upstreams" (.list .text)).both
            (Json.Fields.required "quorum" Tally.decoder)))))).map
      fun (name, recordType, ttl, data, members, tally) =>
        ⟨name, recordType, ttl, data, members, tally⟩

/-- Read a reply. -/
def decoder : Json.Decoder Reply :=
  .record "UpstreamAnswer" fields

end Reply

end GatedResolver.Quorum
