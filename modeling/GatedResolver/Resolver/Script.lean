import GatedResolver.Resolver.Stage

/-!
# Scripts of collaborators

In a rehearsal the collaborators follow scripts: a script says, call by call, how long the
collaborator takes and what then comes of the call.
-/

namespace GatedResolver.Resolver

/-- What a collaborator does in one call: it may wait, and then dies, fails or succeeds. A
wait of no length is a wait too. A document says what the call succeeds with. -/
structure Behaviour where
  delayMs : Option Nat := none
  dies : Bool := false
  failure : Option Failure := none
  document : Option Bytes := none

/-- What a collaborator does in its coming calls. The last behaviour is repeated; without
any the collaborator always succeeds at once. -/
abbrev Script := List Behaviour

/-- The behaviour of the next call, and the script after it. -/
def nextBehaviour : Script → Behaviour × Script
  | [] => ({}, [])
  | [last] => (last, [last])
  | first :: rest => (first, rest)

/-- The scripts of the five collaborators. -/
structure Scripts where
  policy : Script := []
  lookup : Script := []
  query : Script := []
  fill : Script := []
  submit : Script := []

/-- The longest time that a call or a wait takes: thirty years of 365 days. Time limits may be
longer. -/
def longestWaitMs : Nat := 946080000000

/-- How long a call waits, if it does. -/
def Behaviour.waitMs? (behaviour : Behaviour) : Option Nat :=
  behaviour.delayMs.map (min · longestWaitMs)

/-- How long a call takes. -/
def Behaviour.durationMs (behaviour : Behaviour) : Nat :=
  behaviour.waitMs?.getD 0

/-- A call takes as long as its script says, up to the longest wait. -/
theorem Behaviour.durationMs_eq (behaviour : Behaviour) :
    behaviour.durationMs = min (behaviour.delayMs.getD 0) longestWaitMs := by
  unfold durationMs waitMs?
  cases behaviour.delayMs with
  | none => exact (Nat.zero_min _).symm
  | some delayMs => rfl

/-- How handing in a receipt ends under a time limit. A call that ends exactly at the limit
ends in time. -/
def Behaviour.submission (behaviour : Behaviour) (limitMs : Nat) : Ending Submission :=
  if limitMs < behaviour.durationMs then .overran
  else if behaviour.dies then .replied .aborted
  else
    match behaviour.failure with
    | some failure => .failed failure
    | none => .replied (.stored ⟨"", ""⟩)

end GatedResolver.Resolver
