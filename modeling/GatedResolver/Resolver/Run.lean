import GatedResolver.Resolver.Stage

/-!
# Running a request

A request runs against five collaborators, in a monad that says what a call can do: change
a state, take time, or end the whole request.
-/

namespace GatedResolver.Resolver

/-- The collaborators of the resolver. -/
structure Collaborators (m : Type → Type) where
  policy : m (Ending Policy.Decision)
  lookup : Name → m (Ending (Option Answer))
  query : Name → m (Ending Quorum.Reply)
  fill : Name → Answer → m (Ending Unit)
  submit : Resolution → m (Ending Submission)

variable {m : Type → Type} [Monad m]

/-- Make the call of a stage and go to the next one. -/
def advance (collaborators : Collaborators m) (request : Request) :
    Stage → m (Stage × List Warning)
  | .policy => do
    return afterPolicy request (← collaborators.policy)
  | .lookup policy => do
    return afterLookup request policy (← collaborators.lookup request.name)
  | .query policy => do
    return afterQuery request policy (← collaborators.query request.name)
  | .fill policy answer => do
    return afterFill request policy answer (← collaborators.fill request.name answer)
  | .submit resolution => do
    return afterSubmit request resolution (← collaborators.submit resolution)
  | .finished outcome => return (.finished outcome, [])

/-- Make so many steps from a stage. Each warning is passed on when it arises. -/
def runFor (collaborators : Collaborators m) (warn : Warning → m Unit) (request : Request) :
    Nat → Stage → m Stage
  | 0, stage => return stage
  | count + 1, stage => do
    let (next, warnings) ← advance collaborators request stage
    warnings.forM warn
    runFor collaborators warn request count next

/-- The most calls that one request makes. -/
def longestRun : Nat := 5

/-- Run a request from its first stage to its end. -/
def run (collaborators : Collaborators m) (warn : Warning → m Unit) (request : Request) :
    m Outcome := do
  let last ← runFor collaborators warn request longestRun .policy
  return last.outcome request

end GatedResolver.Resolver
