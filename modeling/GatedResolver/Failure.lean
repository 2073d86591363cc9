/-!
# Failures of the service

A failure is what a caller of the service, or another part of it, is told when something
could not be done. The text is one function of the cause.
-/

namespace GatedResolver

/-- Why something could not be done. -/
inductive Failure where
  /-- A name breaks the rule of names. -/
  | invalidName (reason : String)
  /-- A request cannot be understood. -/
  | invalidRequest (reason : String)
  /-- A collaborator of the resolver failed or did not answer in time. -/
  | unavailable (collaborator reason : String)
  /-- Neither the cache nor the quorum has an answer for a name. -/
  | unanswered (name : String)
  /-- A receipt could not be written or read. -/
  | receiptStorage (reason : String)
  /-- The policy document could not be read. -/
  | policySource (reason : String)
  /-- A document that a collaborator holds cannot be read as what it should be. -/
  | serialization (reason : String)
deriving DecidableEq

/-- A failure in words. -/
def Failure.message : Failure → String
  | .invalidName reason => "Invalid name: " ++ reason
  | .invalidRequest reason => "Invalid request: " ++ reason
  | .unavailable collaborator reason => collaborator ++ " unavailable: " ++ reason
  | .unanswered name => "Upstream unavailable for " ++ name
  | .receiptStorage reason => "Receipt storage failed: " ++ reason
  | .policySource reason => "Policy source error: " ++ reason
  | .serialization reason => "Serialization error: " ++ reason

end GatedResolver
