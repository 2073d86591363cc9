import GatedResolver.Proofs.Resolver.Course

/-!
# Runs that differ in their failures

What a request comes to depends on its collaborators only through what they deliver: how a call
fails, or whether it is cut off, shows in the warnings and nowhere else. The warnings go to a log
that no collaborator reads, and `settle` is the outcome of a run with such a log, in any monad.
`settle_eq_run` forgets the log, and `settle_congr` compares two runs call by call.
-/

namespace GatedResolver.Resolver

variable {m : Type → Type} [Monad m]

/-- Collaborators beside a log of warnings that they do not read. -/
def Collaborators.beside (collaborators : Collaborators m) :
    Collaborators (StateT (List Warning) m) where
  policy := StateT.lift collaborators.policy
  lookup name := StateT.lift (collaborators.lookup name)
  query name := StateT.lift (collaborators.query name)
  fill name answer := StateT.lift (collaborators.fill name answer)
  submit resolution := StateT.lift (collaborators.submit resolution)

/-- Put a warning into the log. -/
def record (warning : Warning) : StateT (List Warning) m Unit :=
  modify (· ++ [warning])

/-- The outcome of a request whose warnings go to a log. -/
def settle (collaborators : Collaborators m) (request : Request) : m Outcome :=
  Prod.fst <$> (run collaborators.beside record request).run []

/-- Collaborators that deliver the same, however they fail. -/
structure Collaborators.DeliverAlike (left right : Collaborators m) : Prop where
  policy : Ending.reply? <$> left.policy = Ending.reply? <$> right.policy
  lookup : ∀ name, (fun ending : Ending (Option Answer) => ending.reply?.join) <$> left.lookup name =
    (fun ending => ending.reply?.join) <$> right.lookup name
  query : ∀ name, Ending.reply? <$> left.query name = Ending.reply? <$> right.query name
  fill : ∀ name answer,
    (fun _ => ()) <$> left.fill name answer = (fun _ => ()) <$> right.fill name answer
  submit : ∀ resolution,
    (fun _ => ()) <$> left.submit resolution = (fun _ => ()) <$> right.submit resolution

variable [LawfulMonad m]

/-- Warnings that go nowhere take nothing. -/
theorem forM_silent (warnings : List Warning) :
    (forM warnings fun _ => pure () : m PUnit) = pure () := by
  induction warnings with
  | nil => rfl
  | cons warning rest inductionHypothesis => simp [inductionHypothesis]

/-- A run without warnings makes a step and goes on from where that leads. -/
theorem runFor_succ_silent (collaborators : Collaborators m) (request : Request) (count : Nat)
    (stage : Stage) :
    runFor collaborators (fun _ => pure ()) request (count + 1) stage =
      Prod.fst <$> advance collaborators request stage >>=
        runFor collaborators (fun _ => pure ()) request count := by
  simp [runFor, forM_silent]

section Log

variable (collaborators : Collaborators m) (request : Request)

/-- A step beside a log leaves the log alone. -/
theorem run_advance_beside (stage : Stage) (log : List Warning) :
    (advance collaborators.beside request stage).run log =
      (fun next => (next, log)) <$> advance collaborators request stage := by
  cases stage <;> simp [advance, Collaborators.beside, StateT.run_lift]

/-- Warnings are put into the log one after the other. -/
theorem run_forM_record (warnings log : List Warning) :
    (forM warnings record).run log = (pure ((), log ++ warnings) : m (Unit × List Warning)) := by
  induction warnings generalizing log with
  | nil => simp
  | cons warning rest inductionHypothesis => simp [record, inductionHypothesis]

/-- Forgetting the log of a run leaves a run without warnings. -/
theorem run_runFor_beside (count : Nat) (stage : Stage) (log : List Warning) :
    Prod.fst <$> (runFor collaborators.beside record request count stage).run log =
      runFor collaborators (fun _ => pure ()) request count stage := by
  induction count generalizing stage log with
  | zero => simp [runFor]
  | succ count inductionHypothesis =>
    rw [runFor_succ_silent]
    simp [runFor, run_advance_beside, run_forM_record, inductionHypothesis]

/-- The outcome of a request is that of a run without warnings. -/
theorem settle_eq_run :
    settle collaborators request = run collaborators (fun _ => pure ()) request := by
  rw [settle, run, run, ← run_runFor_beside collaborators request longestRun .policy []]
  simp

end Log

/-- Two calls lead to the same if they deliver the same and only that decides where they lead. -/
theorem map_congr_of_factors {α β γ : Type} {view : α → β} {left right : m α}
    (same : view <$> left = view <$> right) {leads : α → γ} (decide : β → γ)
    (factors : ∀ value, leads value = decide (view value)) : leads <$> left = leads <$> right := by
  have both : ∀ call : m α, leads <$> call = decide <$> view <$> call := by
    intro call
    rw [Functor.map_map, funext factors]
  rw [both, both, same]

section Alike

variable {left right : Collaborators m} (alike : left.DeliverAlike right) (request : Request)
include alike

/-- A step leads to the same stage with collaborators that deliver the same. -/
theorem fst_advance_congr (stage : Stage) :
    Prod.fst <$> advance left request stage = Prod.fst <$> advance right request stage := by
  cases stage with
  | policy =>
    simp only [advance, bind_pure_comp, Functor.map_map]
    exact map_congr_of_factors alike.policy (fun reply => .lookup (reply.getD .unknown))
      (afterPolicy_fst request)
  | lookup decision =>
    simp only [advance, bind_pure_comp, Functor.map_map]
    exact map_congr_of_factors (alike.lookup request.name)
      (fun found? => found?.elim (.query decision) fun found =>
        .submit (resolutionOf request decision found .cache))
      fun ending => by
        rw [afterLookup_fst]
        cases ending.reply?.join <;> rfl
  | query decision =>
    simp only [advance, bind_pure_comp, Functor.map_map]
    exact map_congr_of_factors (alike.query request.name)
      (fun reply? => reply?.elim (.finished (.error (.unanswered request.name.text))) fun reply =>
        .fill decision reply.answer)
      fun ending => by
        rw [afterQuery_fst]
        cases ending.reply? <;> rfl
  | fill decision answer =>
    simp only [advance, bind_pure_comp, Functor.map_map]
    exact map_congr_of_factors (alike.fill request.name answer)
      (fun _ => .submit (resolutionOf request decision answer .quorum))
      (afterFill_fst request decision answer)
  | submit resolution =>
    simp only [advance, bind_pure_comp, Functor.map_map]
    exact map_congr_of_factors (alike.submit resolution) (fun _ => .finished (.ok resolution))
      (afterSubmit_fst request resolution)
  | finished outcome => rfl

/-- A run comes to the same stage with collaborators that deliver the same. -/
theorem runFor_congr (count : Nat) (stage : Stage) :
    runFor left (fun _ => pure ()) request count stage =
      runFor right (fun _ => pure ()) request count stage := by
  induction count generalizing stage with
  | zero => rfl
  | succ count inductionHypothesis =>
    rw [runFor_succ_silent, runFor_succ_silent, fst_advance_congr alike request stage]
    exact congrArg _ (funext inductionHypothesis)

/-- A request has the same outcome with collaborators that deliver the same. -/
theorem settle_congr : settle left request = settle right request := by
  rw [settle_eq_run, settle_eq_run, run, run, runFor_congr alike request]

end Alike

end GatedResolver.Resolver
