import GatedResolver.Failure
import GatedResolver.Text.Decimal

/-!
# Warnings

What the program tells its operator while it goes on. A warning is a cause; it is shown as
a sentence and a few named fields.
-/

namespace GatedResolver

/-- Something that the operator should know. -/
inductive Warning where
  | emptyQuorum
  | unreachableQuorum (required configured : Nat)
  | ephemeralSecret
  | receiptsInMemory
  | noPolicy
  | policyUnavailable (failure : Failure)
  | lookupFailed (name : String) (failure : Failure)
  | quorumUnavailable (name : String) (failure : Failure)
  | noAnswer (name : String)
  | fillFailed (name : String) (failure : Failure)
  | submissionFailed (failure : Failure)
  | submissionOverran (limitMs : Nat)
  | submissionAborted
deriving DecidableEq

namespace Warning

/-- The sentence of a warning. -/
def message : Warning → String
  | .emptyQuorum => "Quorum upstream configured with no upstream identifiers"
  | .unreachableQuorum _ _ => "Quorum override exceeds configured upstream set"
  | .ephemeralSecret =>
    "No receipt secret configured; generated an ephemeral one. " ++
      "Receipts from this process will not verify anywhere else"
  | .receiptsInMemory => "No receipt directory configured, receipts are kept in memory only"
  | .noPolicy => "No policy file or policy URL, every decision will be UNKNOWN"
  | .policyUnavailable _ => "Policy gate unavailable, degrading to UNKNOWN"
  | .lookupFailed _ _ => "Cache lookup failed, treating as miss"
  | .quorumUnavailable _ _ => "Upstream quorum unavailable"
  | .noAnswer _ => "No answer from cache or upstream"
  | .fillFailed _ _ => "Cache fill failed"
  | .submissionFailed _ => "Receipt submission failed"
  | .submissionOverran _ => "Receipt submission timed out"
  | .submissionAborted => "Receipt task aborted"

/-- The named fields of a warning. -/
def fields : Warning → List (String × String)
  | .unreachableQuorum required configured =>
    [("required", Text.decimal required), ("configured", Text.decimal configured)]
  | .policyUnavailable failure => [("error", failure.message)]
  | .lookupFailed name failure => [("name", name), ("error", failure.message)]
  | .quorumUnavailable name failure => [("name", name), ("error", failure.message)]
  | .noAnswer name => [("name", name)]
  | .fillFailed name failure => [("name", name), ("error", failure.message)]
  | .submissionFailed failure => [("error", failure.message)]
  | .submissionOverran limitMs => [("timeout_ms", Text.decimal limitMs)]
  | .emptyQuorum | .ephemeralSecret | .receiptsInMemory | .noPolicy | .submissionAborted => []

end Warning

end GatedResolver
