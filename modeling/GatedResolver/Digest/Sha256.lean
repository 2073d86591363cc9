import GatedResolver.Text.Bytes

/-!
# SHA-256

The message is padded to a multiple of 64 bytes and taken in as words of 32 bits, sixteen
at a time. Every digest has 32 bytes, because it is the eight words of the state.
-/

namespace GatedResolver.Digest

/-- The eight words that the message is folded into. -/
structure State where
  a : UInt32
  b : UInt32
  c : UInt32
  d : UInt32
  e : UInt32
  f : UInt32
  g : UInt32
  h : UInt32
deriving DecidableEq

/-- The state before the first block: fractions of the square roots of small primes. -/
def initialState : State :=
  ⟨0x6a09e667, 0xbb67ae85, 0x3c6ef372, 0xa54ff53a, 0x510e527f, 0x9b05688c, 0x1f83d9ab,
    0x5be0cd19⟩

/-- The constant of each round: fractions of the cube roots of small primes. -/
def roundConstants : List UInt32 := [
  0x428a2f98, 0x71374491, 0xb5c0fbcf, 0xe9b5dba5, 0x3956c25b, 0x59f111f1, 0x923f82a4,
  0xab1c5ed5, 0xd807aa98, 0x12835b01, 0x243185be, 0x550c7dc3, 0x72be5d74, 0x80deb1fe,
  0x9bdc06a7, 0xc19bf174, 0xe49b69c1, 0xefbe4786, 0x0fc19dc6, 0x240ca1cc, 0x2de92c6f,
  0x4a7484aa, 0x5cb0a9dc, 0x76f988da, 0x983e5152, 0xa831c66d, 0xb00327c8, 0xbf597fc7,
  0xc6e00bf3, 0xd5a79147, 0x06ca6351, 0x14292967, 0x27b70a85, 0x2e1b2138, 0x4d2c6dfc,
  0x53380d13, 0x650a7354, 0x766a0abb, 0x81c2c92e, 0x92722c85, 0xa2bfe8a1, 0xa81a664b,
  0xc24b8b70, 0xc76c51a3, 0xd192e819, 0xd6990624, 0xf40e3585, 0x106aa070, 0x19a4c116,
  0x1e376c08, 0x2748774c, 0x34b0bcb5, 0x391c0cb3, 0x4ed8aa4a, 0x5b9cca4f, 0x682e6ff3,
  0x748f82ee, 0x78a5636f, 0x84c87814, 0x8cc70208, 0x90befffa, 0xa4506ceb, 0xbef9a3f7,
  0xc67178f2]

/-- Rotate a word to the right. -/
def rotate (word amount : UInt32) : UInt32 :=
  (word >>> amount) ||| (word <<< (32 - amount))

/-- The next word of a message schedule, from the words before it with the latest first. -/
def nextWord (earlier : List UInt32) : UInt32 :=
  let second := earlier.getD 1 0
  let fifteenth := earlier.getD 14 0
  let spreadSecond := rotate second 17 ^^^ rotate second 19 ^^^ (second >>> 10)
  let spreadFifteenth := rotate fifteenth 7 ^^^ rotate fifteenth 18 ^^^ (fifteenth >>> 3)
  spreadSecond + earlier.getD 6 0 + spreadFifteenth + earlier.getD 15 0

/-- Extend a message schedule, latest word first, by some words. -/
def extendSchedule : Nat → List UInt32 → List UInt32
  | 0, words => words
  | count + 1, words => extendSchedule count (nextWord words :: words)

/-- One round: mix a constant and a word of the schedule into the state. -/
def round (state : State) (constant word : UInt32) : State :=
  let spreadE := rotate state.e 6 ^^^ rotate state.e 11 ^^^ rotate state.e 25
  let choice := (state.e &&& state.f) ^^^ ((~~~ state.e) &&& state.g)
  let first := state.h + spreadE + choice + constant + word
  let spreadA := rotate state.a 2 ^^^ rotate state.a 13 ^^^ rotate state.a 22
  let majority := (state.a &&& state.b) ^^^ (state.a &&& state.c) ^^^ (state.b &&& state.c)
  let second := spreadA + majority
  ⟨first + second, state.a, state.b, state.c, state.d + first, state.e, state.f, state.g⟩

/-- Add two states word by word. -/
def State.add (left right : State) : State :=
  ⟨left.a + right.a, left.b + right.b, left.c + right.c, left.d + right.d, left.e + right.e,
    left.f + right.f, left.g + right.g, left.h + right.h⟩

/-- Run the rounds of a block. -/
def runRounds (state : State) : (constants words : List UInt32) → State
  | constant :: constants, word :: words => runRounds (round state constant word) constants words
  | _, _ => state

/-- Fold a block of sixteen words, latest first, into the state. -/
def compress (state : State) (block : List UInt32) : State :=
  state.add (runRounds state roundConstants (extendSchedule 48 block).reverse)

/-- What a message was folded into so far: the state, and the words of an unfinished block
with the latest first. -/
structure Progress where
  state : State
  pending : List UInt32
  count : Nat

/-- Take in one word. -/
def Progress.absorb (progress : Progress) (word : UInt32) : Progress :=
  if progress.count < 15 then
    ⟨progress.state, word :: progress.pending, progress.count + 1⟩
  else
    ⟨compress progress.state (word :: progress.pending), [], 0⟩

/-- The word of four bytes, most significant first. -/
def wordOfBytes (first second third fourth : UInt8) : UInt32 :=
  (first.toUInt32 <<< 24) ||| (second.toUInt32 <<< 16) ||| (third.toUInt32 <<< 8) |||
    fourth.toUInt32

/-- The four bytes of a word, most significant first. -/
def bytesOfWord (word : UInt32) : Bytes :=
  [(word >>> 24).toUInt8, (word >>> 16).toUInt8, (word >>> 8).toUInt8, word.toUInt8]

/-- Take in bytes, four at a time. -/
def absorbBytes (progress : Progress) : Bytes → Progress
  | first :: second :: third :: fourth :: rest =>
    absorbBytes (progress.absorb (wordOfBytes first second third fourth)) rest
  | _ => progress

/-- What is put behind a message of a length: a one bit, zeros, and its length in bits. -/
def padding (length : Nat) : Bytes :=
  let bits := 8 * length
  0x80 :: List.replicate ((119 - length % 64) % 64) 0 ++
    [56, 48, 40, 32, 24, 16, 8, 0].map fun shift => UInt8.ofNat (bits / Nat.pow 2 shift)

/-- The bytes of a state. -/
def State.bytes (state : State) : Bytes :=
  bytesOfWord state.a ++ bytesOfWord state.b ++ bytesOfWord state.c ++ bytesOfWord state.d ++
    bytesOfWord state.e ++ bytesOfWord state.f ++ bytesOfWord state.g ++ bytesOfWord state.h

/-- The SHA-256 digest of a message. -/
def sha256 (message : Bytes) : Bytes :=
  (absorbBytes ⟨initialState, [], 0⟩ (message ++ padding message.length)).state.bytes

/-- A digest has 32 bytes. -/
theorem length_sha256 (message : Bytes) : (sha256 message).length = 32 := by
  simp [sha256, State.bytes, bytesOfWord]

end GatedResolver.Digest
