import GatedResolver.Receipt.Id
import GatedResolver.Receipt.Ledger
import GatedResolver.Receipt.Signing

/-!
# The signer

The signer makes a receipt out of a record: it stamps the record with a fresh id and the
time, signs it and puts it into its ledger.
-/

namespace GatedResolver.Receipt

/-- What makes a receipt unlike any other one: random bits, and the time in seconds. -/
structure Stamp where
  entropy : Entropy
  timestamp : Int64
deriving DecidableEq

/-- A key, a ledger, and where stamps come from. -/
structure Signer (State : Type) where
  key : Key
  ledger : Ledger State
  stamp : State → Stamp × State

namespace Signer

variable {State : Type}

/-- The receipt for a record under a stamp. -/
def receiptFor (signer : Signer State) (stamp : Stamp) (record : Json.Value) : Signed :=
  signer.key.attest ⟨idOf stamp.entropy, stamp.timestamp, record⟩

/-- Make a receipt for a record and keep it. -/
def submit (signer : Signer State) (record : Json.Value) :
    StateM State (Except Failure Ticket) := fun state =>
  let (stamp, stamped) := signer.stamp state
  let receipt := signer.receiptFor stamp record
  let (location, stored) := signer.ledger.store stamped receipt
  (location.map fun location => ⟨receipt.id, location⟩, stored)

/-- The report on the receipt that is kept under an id. -/
def report (signer : Signer State) (state : State) (id : String) :
    Except Failure (Option Report) :=
  (signer.ledger.fetch state id).map fun found =>
    found.map fun receipt => ⟨receipt, signer.key.verify receipt⟩

end Signer

end GatedResolver.Receipt
