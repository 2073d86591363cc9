import GatedResolver.Digest.Sha256

/-!
# Keyed digests

HMAC with SHA-256: the digest of a message under a key, which only those who know the key
can compute.
-/

namespace GatedResolver.Digest

/-- How many bytes a block of the digest has. -/
def blockLength : Nat := 64

/-- A key as one block: longer keys are replaced by their digest, shorter ones are filled
up with zeros. -/
def keyBlock (key : Bytes) : Bytes :=
  let short := if blockLength < key.length then sha256 key else key
  short ++ List.replicate (blockLength - short.length) 0

/-- The keyed digest of a message. -/
def hmac (key message : Bytes) : Bytes :=
  let block := keyBlock key
  let inner := sha256 ((block.map (· ^^^ 0x36)) ++ message)
  sha256 ((block.map (· ^^^ 0x5C)) ++ inner)

/-- A keyed digest has 32 bytes. -/
theorem length_hmac (key message : Bytes) : (hmac key message).length = 32 :=
  length_sha256 _

end GatedResolver.Digest
