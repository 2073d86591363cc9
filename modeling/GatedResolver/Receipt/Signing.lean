import GatedResolver.Digest.Hmac
import GatedResolver.Json.Printer
import GatedResolver.Receipt.Basic

/-!
# Signing receipts

The signature of a receipt is the keyed digest of its payload in *canonical form*: compact
JSON with the members of every object in ascending order of keys. Two payloads that differ
in nothing but the order of members have one signature.
-/

namespace GatedResolver.Receipt

/-- The canonical form of a JSON value. -/
def canonical (value : Json.Value) : Bytes :=
  (Json.sortKeys value).compact

/-- The bytes that the signature of a payload covers. -/
def Payload.canonical (payload : Payload) : Bytes :=
  Receipt.canonical payload.toJson

/-- The keyed digest of bytes in hexadecimal digits. -/
def signBytes (secret bytes : Bytes) : String :=
  Text.hex (Digest.hmac secret bytes)

/-- A key for signing receipts. -/
structure Key where
  secret : Bytes
deriving DecidableEq

namespace Key

/-- The signature of a payload. -/
def sign (key : Key) (payload : Payload) : String :=
  signBytes key.secret payload.canonical

/-- Whether the signature of a receipt fits its payload. Hexadecimal digits of either case
are taken. -/
def verify (key : Key) (receipt : Signed) : Bool :=
  match Text.readHex? receipt.signature with
  | some digest => digest == Digest.hmac key.secret receipt.payload.canonical
  | none => false

/-- A payload with its signature. -/
def attest (key : Key) (payload : Payload) : Signed :=
  ⟨payload, key.sign payload⟩

end Key

/-- Where the key of a signer comes from. -/
inductive Secret where
  | configured (bytes : Bytes)
  | ephemeral (bytes : Bytes)
deriving DecidableEq

namespace Secret

/-- How many random bytes an ephemeral secret has. -/
def ephemeralLength : Nat := 32

/-- The configured secret if there is one that is not empty, and random bytes otherwise. -/
def ofSettings (configured : Option String) (random : Bytes) : Secret :=
  match configured with
  | some text => if text.isEmpty then .ephemeral random else .configured (Text.utf8 text)
  | none => .ephemeral random

/-- The bytes of a secret. -/
def bytes : Secret → Bytes
  | .configured bytes => bytes
  | .ephemeral bytes => bytes

/-- Whether a secret is known to this process only. -/
def isEphemeral : Secret → Bool
  | .configured _ => false
  | .ephemeral _ => true

/-- How a secret is shown: where it comes from, and nothing of its bytes. -/
def redacted : Secret → String
  | .configured _ => "SigningSecret::Configured(<redacted>)"
  | .ephemeral _ => "SigningSecret::GeneratedEphemeral(<redacted>)"

/-- The key of a secret. -/
def key (secret : Secret) : Key :=
  ⟨secret.bytes⟩

end Secret

end GatedResolver.Receipt
