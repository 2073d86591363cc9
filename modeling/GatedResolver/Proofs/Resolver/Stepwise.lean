import GatedResolver.Proofs.Resolver.Course

/-!
# Running a request step by step

`advance_of_unfinished` says that the resolver makes the call of a stage and then follows
`Stage.after?`. Each call uses up one of the five that a request can make, so a run ends at a
finished stage, and `run_preserves` carries what every step preserves to the end of a run on
any shared state.
-/

namespace GatedResolver.Resolver

/-- How many calls can still be made from a stage on. -/
def Stage.callsLeft : Stage → Nat
  | .policy => 5
  | .lookup _ => 4
  | .query _ => 3
  | .fill _ _ => 2
  | .submit _ => 1
  | .finished _ => 0

/-- A call leaves fewer calls to be made. -/
theorem Stage.callsLeft_after {request : Request} {stage next : Stage} {ending : CallEnding}
    (leads : stage.after? request ending = some next) : next.callsLeft < stage.callsLeft := by
  cases stage with
  | policy =>
    cases ending <;> cases leads
    rw [afterPolicy_fst]
    exact Nat.le_refl 5
  | lookup decision =>
    cases ending <;> cases leads
    rw [afterLookup_fst]
    split <;> simp [callsLeft]
  | query decision =>
    cases ending <;> cases leads
    rw [afterQuery_fst]
    split <;> simp [callsLeft]
  | fill decision answer =>
    cases ending <;> cases leads
    rw [afterFill_fst]
    exact Nat.le_refl 2
  | submit resolution =>
    cases ending <;> cases leads
    rw [afterSubmit_fst]
    exact Nat.le_refl 1
  | finished outcome => cases leads

/-- A stage without calls left is the end of the request. -/
theorem Stage.finished_of_callsLeft {stage : Stage} (none : stage.callsLeft = 0) :
    ∃ outcome, stage = .finished outcome := by
  cases stage with
  | finished outcome => exact ⟨outcome, rfl⟩
  | _ => cases none

section Calls

variable {m : Type → Type} [Monad m] (collaborators : Collaborators m) (request : Request)

/-- Make the call of a stage, if there is one. -/
def Collaborators.call : Stage → m (Option CallEnding)
  | .policy => return some (.policy (← collaborators.policy))
  | .lookup _ => return some (.lookup (← collaborators.lookup request.name))
  | .query _ => return some (.query (← collaborators.query request.name))
  | .fill _ answer => return some (.fill (← collaborators.fill request.name answer))
  | .submit resolution => return some (.submit (← collaborators.submit resolution))
  | .finished _ => return none

end Calls

section State

variable {State : Type} (collaborators : Collaborators (StateM State))
  (warn : Warning → StateM State Unit) (request : Request)

/-- A step of a request that is not finished makes one call, which leads to the next stage. -/
theorem advance_of_unfinished (stage : Stage) (unfinished : 0 < stage.callsLeft) (state : State) :
    ∃ ending, (collaborators.call request stage state).1 = some ending ∧
      stage.after? request ending = some (advance collaborators request stage state).1.1 ∧
      (advance collaborators request stage state).2 =
        (collaborators.call request stage state).2 := by
  cases stage with
  | finished outcome => cases unfinished
  | _ => exact ⟨_, rfl, rfl, rfl⟩

/-- A finished request takes no further step. -/
theorem advance_finished (outcome : Outcome) (state : State) :
    advance collaborators request (.finished outcome) state = ((.finished outcome, []), state) :=
  rfl

/-- One more step of a run is a step, its warnings, and the rest of the run. -/
theorem runFor_succ (count : Nat) (stage : Stage) (state : State) :
    runFor collaborators warn request (count + 1) stage state =
      runFor collaborators warn request count (advance collaborators request stage state).1.1
        (((advance collaborators request stage state).1.2.forM warn)
          (advance collaborators request stage state).2).2 :=
  rfl

/-- Warnings preserve what each one of them preserves. -/
theorem forM_warn_preserves {Invariant : State → Prop}
    (warned : ∀ warning state, Invariant state → Invariant (warn warning state).2)
    (warnings : List Warning) (state : State) (holds : Invariant state) :
    Invariant ((warnings.forM warn) state).2 := by
  induction warnings generalizing state with
  | nil => exact holds
  | cons warning rest inductionHypothesis =>
    exact inductionHypothesis (warn warning state).2 (warned warning state holds)

/-- What every step and every warning preserves holds after any number of steps. -/
theorem runFor_preserves (Invariant : Stage → State → Prop)
    (stepped : ∀ stage state, Invariant stage state →
      Invariant (advance collaborators request stage state).1.1
        (advance collaborators request stage state).2)
    (warned : ∀ stage warning state, Invariant stage state →
      Invariant stage (warn warning state).2)
    (count : Nat) (stage : Stage) (state : State) (holds : Invariant stage state) :
    Invariant (runFor collaborators warn request count stage state).1
      (runFor collaborators warn request count stage state).2 := by
  induction count generalizing stage state with
  | zero => exact holds
  | succ count inductionHypothesis =>
    rw [runFor_succ]
    apply inductionHypothesis
    exact forM_warn_preserves warn (warned _) _ _ (stepped stage state holds)

/-- So many steps use up so many calls, at least. -/
theorem callsLeft_runFor (count : Nat) (stage : Stage) (state : State) :
    (runFor collaborators warn request count stage state).1.callsLeft ≤
      stage.callsLeft - count := by
  induction count generalizing stage state with
  | zero => exact Nat.le_refl stage.callsLeft
  | succ count inductionHypothesis =>
    rw [runFor_succ]
    refine Nat.le_trans (inductionHypothesis _ _) ?_
    by_cases unfinished : 0 < stage.callsLeft
    · obtain ⟨ending, -, leads, -⟩ :=
        advance_of_unfinished collaborators request stage unfinished state
      have fewer := Stage.callsLeft_after leads
      omega
    · obtain ⟨outcome, rfl⟩ := Stage.finished_of_callsLeft (by omega : stage.callsLeft = 0)
      simp [advance_finished, Stage.callsLeft]

/-- What holds at the beginning of a request and is preserved by every step and every warning
holds when the request has ended with its outcome. -/
theorem run_preserves (Invariant : Stage → State → Prop)
    (stepped : ∀ stage state, Invariant stage state →
      Invariant (advance collaborators request stage state).1.1
        (advance collaborators request stage state).2)
    (warned : ∀ stage warning state, Invariant stage state →
      Invariant stage (warn warning state).2)
    (state : State) (holds : Invariant .policy state) :
    Invariant (.finished (run collaborators warn request state).1)
      (run collaborators warn request state).2 := by
  have last := runFor_preserves collaborators warn request Invariant stepped warned longestRun
    .policy state holds
  have left := callsLeft_runFor collaborators warn request longestRun .policy state
  obtain ⟨outcome, ended⟩ := Stage.finished_of_callsLeft (Nat.le_zero.mp left)
  have returned : run collaborators warn request state =
      ((runFor collaborators warn request longestRun .policy state).1.outcome request,
        (runFor collaborators warn request longestRun .policy state).2) := rfl
  rw [returned, ended]
  rw [ended] at last
  exact last

end State

end GatedResolver.Resolver
