import GatedResolver.Proofs.Resolver.Stepwise

/-!
# The outcome of a request

A request makes each of its five calls at most once, so one run meets no more of its
collaborators than how each call ends for its arguments: `Collaborators Id` ranges over all
that can happen to one request. `run_eq_verdict` gives the outcome as a function of the first
three calls alone, from which its laws are read off.
-/

namespace GatedResolver.Resolver

/-- The answer that a request gets and where it comes from: the cache comes first, and the
quorum counts only if the cache delivered none. -/
def found? (lookup : Ending (Option Answer)) (query : Ending Quorum.Reply) :
    Option (Answer × Resolution.Origin) :=
  match lookup.reply?.join with
  | some answer => some (answer, .cache)
  | none => query.reply?.map fun reply => (reply.answer, .quorum)

/-- The outcome for a name by what the policy, the cache and the quorum delivered. -/
def verdict (name : Name) (policy : Ending Policy.Decision) (lookup : Ending (Option Answer))
    (query : Ending Quorum.Reply) : Outcome :=
  match found? lookup query with
  | some (answer, origin) => .ok ⟨name, policy.reply?.getD .unknown, answer, some origin⟩
  | none => .error (.unanswered name.text)

/-- A cached answer settles where the answer comes from. -/
theorem found?_of_cached {lookup : Ending (Option Answer)} {answer : Answer}
    (cached : lookup = .replied (some answer)) (query : Ending Quorum.Reply) :
    found? lookup query = some (answer, .cache) := by
  subst cached
  rfl

/-- Without a cached answer the quorum alone settles it. -/
theorem found?_of_uncached {lookup : Ending (Option Answer)}
    (uncached : ∀ answer, lookup ≠ .replied (some answer)) (query : Ending Quorum.Reply) :
    found? lookup query = query.reply?.map fun reply => (reply.answer, .quorum) := by
  have none := Ending.reply?_join_eq_none_iff.mpr uncached
  simp only [found?, none]

/-- There is an answer exactly when the cache or the quorum delivered one. -/
theorem isSome_found?_iff {lookup : Ending (Option Answer)} {query : Ending Quorum.Reply} :
    (found? lookup query).isSome = true ↔
      (∃ answer, lookup = .replied (some answer)) ∨ ∃ reply, query = .replied reply := by
  by_cases cached : ∃ answer, lookup = .replied (some answer)
  · obtain ⟨answer, replied⟩ := cached
    rw [found?_of_cached replied]
    exact ⟨fun _ => .inl ⟨answer, replied⟩, fun _ => rfl⟩
  · have uncached : ∀ answer, lookup ≠ .replied (some answer) := by
      simpa using cached
    rw [found?_of_uncached uncached, Option.isSome_map, Option.isSome_iff_exists]
    simp only [Ending.reply?_eq_some_iff, cached, false_or]

section Runs

variable (collaborators : Collaborators Id) (warn : Warning → Id Unit) (request : Request)

/-- A request goes from the policy to the cache. -/
theorem advance_policy :
    (advance collaborators request .policy).1 =
      .lookup (collaborators.policy.reply?.getD .unknown) :=
  afterPolicy_fst request collaborators.policy

/-- A request goes from the cache to its receipt or to the quorum. -/
theorem advance_lookup (decision : Policy.Decision) :
    (advance collaborators request (.lookup decision)).1 =
      match (collaborators.lookup request.name).reply?.join with
      | some answer => .submit (resolutionOf request decision answer .cache)
      | none => .query decision :=
  afterLookup_fst request decision (collaborators.lookup request.name)

/-- A request goes from the quorum back to the cache, or fails. -/
theorem advance_query (decision : Policy.Decision) :
    (advance collaborators request (.query decision)).1 =
      match (collaborators.query request.name).reply? with
      | some reply => .fill decision reply.answer
      | none => .finished (.error (.unanswered request.name.text)) :=
  afterQuery_fst request decision (collaborators.query request.name)

/-- A request that filled the cache goes to its receipt. -/
theorem advance_fill (decision : Policy.Decision) (answer : Answer) :
    (advance collaborators request (.fill decision answer)).1 =
      .submit (resolutionOf request decision answer .quorum) :=
  afterFill_fst request decision answer (collaborators.fill request.name answer)

/-- A request that has handed in its resolution returns it. -/
theorem advance_submit (resolution : Resolution) :
    (advance collaborators request (.submit resolution)).1 = .finished (.ok resolution) :=
  afterSubmit_fst request resolution (collaborators.submit resolution)

/-- The outcome that a stage leads to. -/
def Stage.destined : Stage → Outcome
  | .policy =>
    verdict request.name collaborators.policy (collaborators.lookup request.name)
      (collaborators.query request.name)
  | .lookup decision =>
    verdict request.name (.replied decision) (collaborators.lookup request.name)
      (collaborators.query request.name)
  | .query decision =>
    verdict request.name (.replied decision) (.replied none) (collaborators.query request.name)
  | .fill decision answer => .ok (resolutionOf request decision answer .quorum)
  | .submit resolution => .ok resolution
  | .finished outcome => outcome

/-- A step does not change where a request is bound for. -/
theorem destined_advance (stage : Stage) :
    (advance collaborators request stage).1.destined collaborators request =
      stage.destined collaborators request := by
  cases stage with
  | policy =>
    rw [advance_policy]
    rfl
  | lookup decision =>
    rw [advance_lookup]
    simp only [Stage.destined, verdict, found?]
    cases (collaborators.lookup request.name).reply?.join <;> rfl
  | query decision =>
    rw [advance_query]
    simp only [Stage.destined, verdict, found?]
    cases (collaborators.query request.name).reply? <;> rfl
  | fill decision answer =>
    rw [advance_fill]
    rfl
  | submit resolution =>
    rw [advance_submit]
    rfl
  | finished outcome => rfl

/-- Each step uses up one of the calls that are left, at least. -/
theorem callsLeft_advance (stage : Stage) :
    (advance collaborators request stage).1.callsLeft ≤ stage.callsLeft - 1 := by
  have fewer : ∀ ending, stage.after? request ending =
      some (advance collaborators request stage).1 →
      (advance collaborators request stage).1.callsLeft ≤ stage.callsLeft - 1 := by
    intro ending leads
    exact Nat.le_pred_of_lt (Stage.callsLeft_after leads)
  cases stage with
  | policy => exact fewer (.policy collaborators.policy) rfl
  | lookup decision => exact fewer (.lookup (collaborators.lookup request.name)) rfl
  | query decision => exact fewer (.query (collaborators.query request.name)) rfl
  | fill decision answer => exact fewer (.fill (collaborators.fill request.name answer)) rfl
  | submit resolution => exact fewer (.submit (collaborators.submit resolution)) rfl
  | finished outcome => exact Nat.le_refl 0

/-- Enough steps bring a request to the outcome that it is bound for. -/
theorem runFor_eq_finished (count : Nat) (stage : Stage) (enough : stage.callsLeft ≤ count) :
    runFor collaborators warn request count stage =
      .finished (stage.destined collaborators request) := by
  induction count generalizing stage with
  | zero =>
    cases stage with
    | finished outcome => rfl
    | _ => simp [Stage.callsLeft] at enough
  | succ count inductionHypothesis =>
    have fewer := callsLeft_advance collaborators request stage
    have step : runFor collaborators warn request (count + 1) stage =
        runFor collaborators warn request count (advance collaborators request stage).1 := rfl
    rw [step, inductionHypothesis _ (by omega), destined_advance]

/-- The outcome of a run depends on nothing but its first three calls. -/
theorem run_eq_verdict :
    run collaborators warn request =
      verdict request.name collaborators.policy (collaborators.lookup request.name)
        (collaborators.query request.name) := by
  have last := runFor_eq_finished collaborators warn request longestRun .policy (Nat.le_refl 5)
  change (runFor collaborators warn request longestRun .policy).outcome request = _
  rw [last]
  rfl

end Runs

/-- What an outcome says besides the policy that was in force. -/
def withoutPolicy (outcome : Outcome) :
    Except Failure (Name × Answer × Option Resolution.Origin) :=
  outcome.map fun resolution => (resolution.name, resolution.answer, resolution.origin)

/-- A verdict shows its policy in one place only. -/
theorem withoutPolicy_verdict (name : Name) (policy : Ending Policy.Decision)
    (lookup : Ending (Option Answer)) (query : Ending Quorum.Reply) :
    withoutPolicy (verdict name policy lookup query) =
      withoutPolicy (verdict name .overran lookup query) := by
  unfold verdict
  cases found? lookup query <;> rfl

/-- A request ends with a resolution exactly when the cache delivers an answer in time or,
failing that, the quorum delivers a reply in time. The resolution has the name that was asked,
that answer with its origin, and the decision that the gate delivered in time, or the unknown
policy without any extra member. Every other request ends with one failure, that its name is
unanswered. How the cache takes an answer and how the receipt fares never matters, and the
policy matters for nothing but itself. -/
theorem run_settles (collaborators : Collaborators Id) (warn : Warning → Id Unit)
    (request : Request) :
    ((∃ resolution, run collaborators warn request = .ok resolution) ↔
      (∃ answer, collaborators.lookup request.name = .replied (some answer)) ∨
        ∃ reply, collaborators.query request.name = .replied reply) ∧
    (∀ resolution, run collaborators warn request = .ok resolution →
      resolution.name = request.name ∧
      (∀ decision, collaborators.policy = .replied decision → resolution.policy = decision) ∧
      ((∀ decision, collaborators.policy ≠ .replied decision) →
        resolution.policy = ⟨.unknown, []⟩) ∧
      (∀ answer, collaborators.lookup request.name = .replied (some answer) →
        resolution.answer = answer ∧ resolution.origin = some .cache) ∧
      (∀ reply, (∀ answer, collaborators.lookup request.name ≠ .replied (some answer)) →
        collaborators.query request.name = .replied reply →
        resolution.answer = ⟨reply.recordType, reply.ttl, reply.data⟩ ∧
          resolution.origin = some .quorum)) ∧
    (∀ failure, run collaborators warn request = .error failure →
      failure = .unanswered request.name.text) ∧
    (∀ (other : Collaborators Id) (warnOther : Warning → Id Unit),
      other.policy = collaborators.policy →
      other.lookup request.name = collaborators.lookup request.name →
      other.query request.name = collaborators.query request.name →
      run other warnOther request = run collaborators warn request) ∧
    (∀ (other : Collaborators Id) (warnOther : Warning → Id Unit),
      other.lookup request.name = collaborators.lookup request.name →
      other.query request.name = collaborators.query request.name →
      withoutPolicy (run other warnOther request) =
        withoutPolicy (run collaborators warn request)) := by
  have settled := run_eq_verdict collaborators warn request
  refine ⟨?exactly, ?content, ?failure, ?aftermath, ?policy⟩
  case exactly =>
    rw [← isSome_found?_iff, settled, verdict]
    cases found? (collaborators.lookup request.name) (collaborators.query request.name) with
    | none => simp
    | some found => exact ⟨fun _ => rfl, fun _ => ⟨_, rfl⟩⟩
  case content =>
    intro resolution ended
    rw [settled, verdict] at ended
    split at ended
    · next answer origin found =>
      cases ended
      refine ⟨rfl, ?_, ?_, ?_, ?_⟩
      · intro decision delivered
        simp [delivered, Ending.reply?]
      · intro undelivered
        simp only [Ending.reply?_eq_none_iff.mpr undelivered]
        rfl
      · intro cachedAnswer cached
        rw [found?_of_cached cached] at found
        cases found
        exact ⟨rfl, rfl⟩
      · intro reply uncached replied
        rw [found?_of_uncached uncached, replied] at found
        cases found
        exact ⟨rfl, rfl⟩
    · cases ended
  case failure =>
    intro failure ended
    rw [settled, verdict] at ended
    split at ended <;> cases ended
    rfl
  case aftermath =>
    intro other warnOther policy lookup query
    rw [settled, run_eq_verdict, policy, lookup, query]
  case policy =>
    intro other warnOther lookup query
    rw [settled, run_eq_verdict, withoutPolicy_verdict, lookup, query, ← withoutPolicy_verdict]

/-- Collaborators of which none but the quorum is any good. -/
def onlyQuorum : Collaborators Id where
  policy := .failed (.policySource "gone")
  lookup _ := .overran
  query name := .replied ⟨name, "A", 60, "203.0.113.10", ["one"], ⟨1, 1⟩⟩
  fill _ _ := .failed (.unavailable "cache" "full")
  submit _ := .replied .aborted

/-- A request of which all calls but one go wrong still gets its answer, and the same one if
the calls behind the answer go well. -/
theorem run_settles_onlyQuorum :
    let request : Request := ⟨⟨"example.com", by decide⟩, 2000⟩
    let calm : Collaborators Id :=
      { onlyQuorum with fill := fun _ _ => .replied (), submit := fun _ => .overran }
    (∀ decision, onlyQuorum.policy ≠ .replied decision) ∧
    (∀ answer, onlyQuorum.lookup request.name ≠ .replied (some answer)) ∧
    run onlyQuorum (fun _ => ()) request =
      .ok ⟨request.name, ⟨.unknown, []⟩, ⟨"A", 60, "203.0.113.10"⟩, some .quorum⟩ ∧
    run calm (fun _ => ()) request = run onlyQuorum (fun _ => ()) request := by
  intro request calm
  have noPolicy : ∀ decision, onlyQuorum.policy ≠ .replied decision := by
    intro decision
    simp [onlyQuorum]
  have uncached : ∀ answer, onlyQuorum.lookup request.name ≠ .replied (some answer) := by
    intro answer
    simp [onlyQuorum]
  obtain ⟨exactly, content, _, aftermath, _⟩ :=
    run_settles onlyQuorum (fun _ => ()) request
  obtain ⟨resolution, ended⟩ := exactly.mpr (.inr ⟨_, rfl⟩)
  obtain ⟨name, _, policy, _, answer⟩ := content resolution ended
  obtain ⟨answered, origin⟩ := answer _ uncached rfl
  refine ⟨noPolicy, uncached, ?_, aftermath calm (fun _ => ()) rfl rfl rfl⟩
  rw [ended, ← name, ← policy noPolicy, ← origin]
  congr
  exact answered ▸ rfl

end GatedResolver.Resolver
