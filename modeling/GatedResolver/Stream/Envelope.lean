import GatedResolver.Json.Decode
import GatedResolver.Json.Printer

/-!
# Envelopes

What a client of the stream listener gets back: a line that says how many bytes arrived,
and when.
-/

namespace GatedResolver.Stream

/-- The reply to bytes on the stream. -/
structure Envelope where
  protocol : String
  bytes : UInt64
  timestamp : Int64
deriving DecidableEq

namespace Envelope

/-- The reply of the listener to a count of bytes at a time. -/
def ofCount (count : Nat) (timestamp : Int64) : Envelope :=
  ⟨"dot", UInt64.ofNat count, timestamp⟩

/-- An envelope as a JSON value. -/
def toJson (envelope : Envelope) : Json.Value :=
  .object [("protocol", .string envelope.protocol), ("bytes", .ofUInt64 envelope.bytes),
    ("timestamp", .ofInt64 envelope.timestamp)]

/-- The fields of an envelope. -/
def fields : Json.Fields Envelope :=
  ((Json.Fields.required "protocol" .text).both
    ((Json.Fields.required "bytes" .size).both (Json.Fields.required "timestamp" .int64))).map
      fun (protocol, bytes, timestamp) => ⟨protocol, bytes, timestamp⟩

/-- Read an envelope. -/
def decoder : Json.Decoder Envelope :=
  .record "DotEnvelope" fields

/-- The line of an envelope. -/
def line (envelope : Envelope) : Bytes :=
  envelope.toJson.compact ++ [0x0A]

end Envelope

end GatedResolver.Stream
