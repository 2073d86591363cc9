import GatedResolver.Json.Decode

/-!
# Counting a quorum

A quorum is met when at least as many members answered as are required. Without an
explicit number a strict majority of the members is required, and at least one in any
case.
-/

namespace GatedResolver.Quorum

/-- How many answers a quorum requires and how many it has. -/
structure Tally where
  required : UInt32
  responded : UInt32
deriving DecidableEq

/-- A count of members as a 32-bit word; greater counts become the greatest word. -/
def clampCount (count : Nat) : Nat :=
  min count 4294967295

/-- The least number of answers of which any two sets have a member in common. -/
def majority (members : Nat) : UInt32 :=
  UInt32.ofNat (clampCount members / 2 + 1)

namespace Tally

/-- The tally when all members of a quorum answer. -/
def ofMembers (members : Nat) (explicit : Option UInt32) : Tally where
  required := max (explicit.getD (majority members)) 1
  responded := UInt32.ofNat (clampCount members)

/-- Whether enough members answered. -/
def isMet (tally : Tally) : Bool :=
  tally.required ≤ tally.responded

/-- A tally as a JSON value. -/
def toJson (tally : Tally) : Json.Value :=
  .object [("required", .ofUInt32 tally.required), ("responded", .ofUInt32 tally.responded)]

/-- The fields of a tally. -/
def fields : Json.Fields Tally :=
  ((Json.Fields.required "required" .uint32).both
    (Json.Fields.required "responded" .uint32)).map
      fun (required, responded) => ⟨required, responded⟩

/-- Read a tally. -/
def decoder : Json.Decoder Tally :=
  .record "QuorumTally" fields

/-- A tally of members requires at least one answer. -/
theorem one_le_required_ofMembers (members : Nat) (explicit : Option UInt32) :
    1 ≤ (ofMembers members explicit).required := by
  change 1 ≤ (if explicit.getD (majority members) ≤ 1 then 1 else explicit.getD (majority members))
  split
  · exact UInt32.le_refl 1
  · rename_i more
    exact UInt32.le_of_lt (UInt32.not_le.mp more)

end Tally

end GatedResolver.Quorum
