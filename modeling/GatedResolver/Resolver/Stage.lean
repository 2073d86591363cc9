import GatedResolver.Quorum.Reply
import GatedResolver.Receipt.Basic
import GatedResolver.Resolution.Basic
import GatedResolver.Warning

/-!
# The stages of a request

The resolver asks for the policy, looks the name up in the cache, asks the quorum if the
cache has no answer, fills the cache with what the quorum replied, and hands the outcome in
for a receipt. At each stage one call to a collaborator is made, and how it ended decides
the next stage. Only a missing answer fails the request; any other call that goes wrong is
warned about and passed over.
-/

namespace GatedResolver.Resolver

/-- What is asked, and how long the resolver waits for each collaborator. -/
structure Request where
  name : Name
  limitMs : Nat
deriving DecidableEq

/-- How a call to a collaborator ended. -/
inductive Ending (α : Type) where
  /-- It replied in time. -/
  | replied (value : α)
  /-- It failed in time. -/
  | failed (failure : Failure)
  /-- It was cut off at the time limit. -/
  | overran
deriving DecidableEq

/-- How the task that hands in a receipt ended, if it was not cut off. -/
inductive Submission where
  /-- The receipt is kept. -/
  | stored (ticket : Receipt.Ticket)
  /-- The task died. -/
  | aborted
deriving DecidableEq

/-- What a request ends with. -/
abbrev Outcome := Except Failure Resolution

/-- Where a request stands, with what it found out so far. -/
inductive Stage where
  /-- The policy is due. -/
  | policy
  /-- The cache is to be asked. -/
  | lookup (policy : Policy.Decision)
  /-- The quorum is to be asked. -/
  | query (policy : Policy.Decision)
  /-- The reply of the quorum is to be stored in the cache. -/
  | fill (policy : Policy.Decision) (answer : Answer)
  /-- The outcome is to be handed in for a receipt. -/
  | submit (resolution : Resolution)
  /-- Nothing is left to do. -/
  | finished (outcome : Outcome)

/-- A call to a collaborator. -/
inductive Call where
  | policy
  | lookup (name : Name)
  | query (name : Name)
  | fill (name : Name) (answer : Answer)
  | submit (resolution : Resolution)
deriving DecidableEq

/-- The call that is made at a stage. -/
def Stage.call? (request : Request) : Stage → Option Call
  | .policy => some .policy
  | .lookup _ => some (.lookup request.name)
  | .query _ => some (.query request.name)
  | .fill _ answer => some (.fill request.name answer)
  | .submit resolution => some (.submit resolution)
  | .finished _ => none

/-- The failure of a call that was cut off. -/
def overrunFailure (request : Request) (collaborator : String) : Failure :=
  .unavailable collaborator ("timed out after " ++ Text.decimal request.limitMs ++ "ms")

/-- What a call delivered, or the failure that stands for it. -/
def Ending.delivered {α : Type} (request : Request) (collaborator : String) :
    Ending α → Except Failure α
  | .replied value => .ok value
  | .failed failure => .error failure
  | .overran => .error (overrunFailure request collaborator)

/-- After the policy was asked for: without a decision the policy is unknown. -/
def afterPolicy (request : Request) (ending : Ending Policy.Decision) : Stage × List Warning :=
  match ending.delivered request "policy gate" with
  | .ok decision => (.lookup decision, [])
  | .error failure => (.lookup .unknown, [.policyUnavailable failure])

/-- The outcome of a request with an answer. -/
def resolutionOf (request : Request) (policy : Policy.Decision) (answer : Answer)
    (origin : Resolution.Origin) : Resolution :=
  ⟨request.name, policy, answer, some origin⟩

/-- After the cache was asked: an answer is handed in, anything else goes to the quorum. -/
def afterLookup (request : Request) (policy : Policy.Decision)
    (ending : Ending (Option Answer)) : Stage × List Warning :=
  match ending.delivered request "cache" with
  | .ok (some answer) => (.submit (resolutionOf request policy answer .cache), [])
  | .ok none => (.query policy, [])
  | .error failure => (.query policy, [.lookupFailed request.name.text failure])

/-- After the quorum was asked: its answer is stored; without one the request fails. -/
def afterQuery (request : Request) (policy : Policy.Decision) (ending : Ending Quorum.Reply) :
    Stage × List Warning :=
  match ending.delivered request "upstream quorum" with
  | .ok reply => (.fill policy reply.answer, [])
  | .error failure =>
    (.finished (.error (.unanswered request.name.text)),
      [.quorumUnavailable request.name.text failure, .noAnswer request.name.text])

/-- After the cache was filled, or was not. -/
def afterFill (request : Request) (policy : Policy.Decision) (answer : Answer)
    (ending : Ending Unit) : Stage × List Warning :=
  let next := Stage.submit (resolutionOf request policy answer .quorum)
  match ending.delivered request "cache" with
  | .ok () => (next, [])
  | .error failure => (next, [.fillFailed request.name.text failure])

/-- After the outcome was handed in: how that ended does not matter for the outcome. -/
def afterSubmit (request : Request) (resolution : Resolution) (ending : Ending Submission) :
    Stage × List Warning :=
  let next := Stage.finished (.ok resolution)
  match ending with
  | .replied (.stored _) => (next, [])
  | .replied .aborted => (next, [.submissionAborted])
  | .failed failure => (next, [.submissionFailed failure])
  | .overran => (next, [.submissionOverran request.limitMs])

/-- The outcome of a stage; a request that is not finished has no answer yet. -/
def Stage.outcome (request : Request) : Stage → Outcome
  | .finished outcome => outcome
  | _ => .error (.unanswered request.name.text)

end GatedResolver.Resolver
