import GatedResolver.Resolver.Run

/-!
# The course of a request

What a request does after a call depends only on what the call delivered in time:
`Ending.reply?` forgets whether a call failed or was cut off, and the stage lemmas
`afterPolicy_fst` to `afterSubmit_fst` say where each stage leads in terms of it.

`Stage.after?` is the transition function of one request, apart from any collaborator. Runs
of many requests at once are stated over it, and what lies behind a request at any stage is
`Stage.Behind`, whoever else is at work.
-/

namespace GatedResolver.Resolver

variable {α : Type}

/-- What a call delivered in time. A failure and a cut delivered nothing. -/
def Ending.reply? : Ending α → Option α
  | .replied value => some value
  | .failed _ => none
  | .overran => none

/-- A call delivers a value exactly when it replies with it. -/
theorem Ending.reply?_eq_some_iff {ending : Ending α} {value : α} :
    ending.reply? = some value ↔ ending = .replied value := by
  cases ending <;> simp [reply?]

/-- A call delivers nothing exactly when it does not reply. -/
theorem Ending.reply?_eq_none_iff {ending : Ending α} :
    ending.reply? = none ↔ ∀ value, ending ≠ .replied value := by
  cases ending <;> simp [reply?]

/-- The cache delivers an answer exactly when it replies that it has one. -/
theorem Ending.reply?_join_eq_some_iff {ending : Ending (Option α)} {value : α} :
    ending.reply?.join = some value ↔ ending = .replied (some value) := by
  rw [Option.join_eq_some_iff, Ending.reply?_eq_some_iff]

/-- The cache delivers no answer exactly when it does not reply with one. -/
theorem Ending.reply?_join_eq_none_iff {ending : Ending (Option α)} :
    ending.reply?.join = none ↔ ∀ value, ending ≠ .replied (some value) := by
  rw [Option.eq_none_iff_forall_not_mem]
  simp only [Option.mem_def, Ending.reply?_join_eq_some_iff, ne_eq]

section Stages

variable (request : Request) (policy : Policy.Decision) (answer : Answer)

/-- The policy goes on as it was delivered, and as unknown otherwise. -/
theorem afterPolicy_fst (ending : Ending Policy.Decision) :
    (afterPolicy request ending).1 = .lookup (ending.reply?.getD .unknown) := by
  cases ending <;> rfl

/-- A cached answer is handed in, and without one the quorum is asked. -/
theorem afterLookup_fst (ending : Ending (Option Answer)) :
    (afterLookup request policy ending).1 =
      match ending.reply?.join with
      | some found => .submit (resolutionOf request policy found .cache)
      | none => .query policy := by
  rcases ending with (_ | found) | failure | _ <;> rfl

/-- A reply of the quorum is stored, and without one the request fails. -/
theorem afterQuery_fst (ending : Ending Quorum.Reply) :
    (afterQuery request policy ending).1 =
      match ending.reply? with
      | some reply => .fill policy reply.answer
      | none => .finished (.error (.unanswered request.name.text)) := by
  cases ending <;> rfl

/-- An answer of the quorum is handed in, however the cache took it. -/
theorem afterFill_fst (ending : Ending Unit) :
    (afterFill request policy answer ending).1 =
      .submit (resolutionOf request policy answer .quorum) := by
  cases ending <;> rfl

/-- A resolution is returned, however handing it in ended. -/
theorem afterSubmit_fst (resolution : Resolution) (ending : Ending Submission) :
    (afterSubmit request resolution ending).1 = .finished (.ok resolution) := by
  rcases ending with (ticket | _) | failure | _ <;> rfl

end Stages

/-- How a call ended, with the stage that it was made at. -/
inductive CallEnding where
  | policy (ending : Ending Policy.Decision)
  | lookup (ending : Ending (Option Answer))
  | query (ending : Ending Quorum.Reply)
  | fill (ending : Ending Unit)
  | submit (ending : Ending Submission)

/-- Where a request stands once the call of its stage has ended. There is no next stage if
another call ended, or if nothing is left to do. -/
def Stage.after? (request : Request) : Stage → CallEnding → Option Stage
  | .policy, .policy ending => some (afterPolicy request ending).1
  | .lookup decision, .lookup ending => some (afterLookup request decision ending).1
  | .query decision, .query ending => some (afterQuery request decision ending).1
  | .fill decision answer, .fill ending => some (afterFill request decision answer ending).1
  | .submit resolution, .submit ending => some (afterSubmit request resolution ending).1
  | _, _ => none

/-- A call that a request made, and how it ended. -/
abbrev Contact := Call × CallEnding

/-- The calls that bring a request from its beginning to a stage, in their order. -/
inductive Course (request : Request) : List Contact → Stage → Prop where
  | start : Course request [] .policy
  | step {contacts : List Contact} {stage next : Stage} {call : Call} {ending : CallEnding}
      (prior : Course request contacts stage)
      (due : stage.call? request = some call)
      (leads : stage.after? request ending = some next) :
      Course request (contacts ++ [(call, ending)]) next

/-- The calls of a request that has asked for the policy and then asked the cache. -/
def contactsToCache (request : Request) (policy : Ending Policy.Decision)
    (lookup : Ending (Option Answer)) : List Contact :=
  [(.policy, .policy policy), (.lookup request.name, .lookup lookup)]

/-- The calls of a request that went on to the quorum. -/
def contactsToQuorum (request : Request) (policy : Ending Policy.Decision)
    (lookup : Ending (Option Answer)) (query : Ending Quorum.Reply) : List Contact :=
  contactsToCache request policy lookup ++ [(.query request.name, .query query)]

/-- The calls of a request that went on to fill the cache. -/
def contactsToFill (request : Request) (policy : Ending Policy.Decision)
    (lookup : Ending (Option Answer)) (reply : Quorum.Reply) (fill : Ending Unit) :
    List Contact :=
  contactsToQuorum request policy lookup (.replied reply) ++
    [(.fill request.name reply.answer, .fill fill)]

/-- The two ways on which a request comes to have a resolution: the cache has an answer, or
the quorum replies where the cache has none. -/
def Settles (request : Request) (contacts : List Contact) (resolution : Resolution) : Prop :=
  (∃ policy answer,
    contacts = contactsToCache request policy (.replied (some answer)) ∧
    resolution = resolutionOf request (policy.reply?.getD .unknown) answer .cache) ∨
  ∃ policy lookup reply fill,
    lookup.reply?.join = none ∧
    contacts = contactsToFill request policy lookup reply fill ∧
    resolution = resolutionOf request (policy.reply?.getD .unknown) reply.answer .quorum

/-- What lies behind a request at a stage, whatever its collaborators did: which calls it
made, and how the stage follows from what they delivered. -/
def Stage.Behind (request : Request) (contacts : List Contact) : Stage → Prop
  | .policy => contacts = []
  | .lookup decision => ∃ policy,
    contacts = [(.policy, .policy policy)] ∧ decision = policy.reply?.getD .unknown
  | .query decision => ∃ policy lookup,
    lookup.reply?.join = none ∧ contacts = contactsToCache request policy lookup ∧
      decision = policy.reply?.getD .unknown
  | .fill decision answer => ∃ policy lookup reply,
    lookup.reply?.join = none ∧
      contacts = contactsToQuorum request policy lookup (.replied reply) ∧
      decision = policy.reply?.getD .unknown ∧ answer = reply.answer
  | .submit resolution => Settles request contacts resolution
  | .finished (.ok resolution) => ∃ before submit,
    Settles request before resolution ∧
      contacts = before ++ [(.submit resolution, .submit submit)]
  | .finished (.error failure) => ∃ policy lookup query,
    lookup.reply?.join = none ∧ query.reply? = none ∧
      contacts = contactsToQuorum request policy lookup query ∧
      failure = .unanswered request.name.text

/-- One more call puts one more contact behind the request. -/
theorem Stage.Behind.step {request : Request} {contacts : List Contact} {stage next : Stage}
    {call : Call} {ending : CallEnding} (behind : stage.Behind request contacts)
    (due : stage.call? request = some call) (leads : stage.after? request ending = some next) :
    next.Behind request (contacts ++ [(call, ending)]) := by
  cases stage with
  | policy =>
    cases ending <;> simp only [after?, reduceCtorEq, Option.some.injEq] at leads
    next policy =>
    cases due
    subst behind leads
    rw [afterPolicy_fst]
    exact ⟨policy, rfl, rfl⟩
  | lookup decision =>
    cases ending <;> simp only [after?, reduceCtorEq, Option.some.injEq] at leads
    next lookup =>
    cases due
    obtain ⟨policy, rfl, rfl⟩ := behind
    subst leads
    rw [afterLookup_fst]
    split
    · next answer cached =>
      obtain rfl := Ending.reply?_join_eq_some_iff.mp cached
      exact .inl ⟨policy, answer, rfl, rfl⟩
    · next uncached => exact ⟨policy, lookup, uncached, rfl, rfl⟩
  | query decision =>
    cases ending <;> simp only [after?, reduceCtorEq, Option.some.injEq] at leads
    next query =>
    cases due
    obtain ⟨policy, lookup, uncached, rfl, rfl⟩ := behind
    subst leads
    rw [afterQuery_fst]
    split
    · next reply replied =>
      obtain rfl := Ending.reply?_eq_some_iff.mp replied
      exact ⟨policy, lookup, reply, uncached, rfl, rfl, rfl⟩
    · next unanswered => exact ⟨policy, lookup, query, uncached, unanswered, rfl, rfl⟩
  | fill decision answer =>
    cases ending <;> simp only [after?, reduceCtorEq, Option.some.injEq] at leads
    next fill =>
    cases due
    obtain ⟨policy, lookup, reply, uncached, rfl, rfl, rfl⟩ := behind
    subst leads
    rw [afterFill_fst]
    exact .inr ⟨policy, lookup, reply, fill, uncached, rfl, rfl⟩
  | submit resolution =>
    cases ending <;> simp only [after?, reduceCtorEq, Option.some.injEq] at leads
    next submit =>
    cases due
    subst leads
    rw [afterSubmit_fst]
    exact ⟨contacts, submit, behind, rfl⟩
  | finished outcome => cases due

/-- The calls of a request follow one of few lines, up to what its collaborators deliver. -/
theorem Course.behind {request : Request} {contacts : List Contact} {stage : Stage}
    (course : Course request contacts stage) : stage.Behind request contacts := by
  induction course with
  | start => rfl
  | step prior due leads inductionHypothesis => exact inductionHypothesis.step due leads

section Contacts

variable {request : Request} {contacts : List Contact} {stage : Stage}

/-- What a request fills the cache with is what the quorum replied to it. -/
theorem Course.query_of_fill (course : Course request contacts stage) {name : Name}
    {answer : Answer} {ending : CallEnding} (filled : (.fill name answer, ending) ∈ contacts) :
    ∃ reply, (.query name, .query (.replied reply)) ∈ contacts ∧ reply.answer = answer := by
  have behind := course.behind
  unfold Stage.Behind at behind
  split at behind <;>
    grind [Settles, contactsToCache, contactsToQuorum, contactsToFill]

/-- Behind a resolution there is an answer that the cache had or that it was to be filled
with. -/
theorem Course.answer_of_ok {resolution : Resolution}
    (course : Course request contacts (.finished (.ok resolution))) :
    (.lookup request.name, .lookup (.replied (some resolution.answer))) ∈ contacts ∨
      ∃ ending, (.fill request.name resolution.answer, ending) ∈ contacts := by
  obtain ⟨before, submit, settles, rfl⟩ := course.behind
  rcases settles with ⟨policy, answer, rfl, rfl⟩ | ⟨policy, lookup, reply, fill, -, rfl, rfl⟩
  · exact .inl (by simp [contactsToCache, resolutionOf])
  · exact .inr ⟨.fill fill, by simp [contactsToFill, resolutionOf]⟩

/-- A resolution out of the cache has the answer that the cache replied with. -/
theorem Course.lookup_of_cache {resolution : Resolution}
    (course : Course request contacts (.finished (.ok resolution)))
    (cached : resolution.origin = some .cache) :
    resolution.name = request.name ∧
      (.lookup request.name, .lookup (.replied (some resolution.answer))) ∈ contacts := by
  obtain ⟨before, submit, settles, rfl⟩ := course.behind
  rcases settles with ⟨policy, answer, rfl, rfl⟩ | ⟨policy, lookup, reply, fill, -, rfl, rfl⟩
  · exact ⟨rfl, by simp [contactsToCache, resolutionOf]⟩
  · cases cached

/-- A request that the cache has an answer for does not ask the quorum. -/
theorem Course.not_query_of_cached (course : Course request contacts stage) {name other : Name}
    {answer : Answer} {ending : CallEnding}
    (cached : (.lookup name, .lookup (.replied (some answer))) ∈ contacts) :
    (.query other, ending) ∉ contacts := by
  have behind := course.behind
  have found : (Ending.replied (some answer)).reply?.join = some answer := rfl
  unfold Stage.Behind at behind
  split at behind <;>
    grind [Settles, contactsToCache, contactsToQuorum, contactsToFill]

/-- A request that the cache has an answer for does not come to ask the quorum. -/
theorem Course.not_at_query_of_cached {decision : Policy.Decision} {name : Name}
    {answer : Answer} (course : Course request contacts (.query decision)) :
    (.lookup name, .lookup (.replied (some answer))) ∉ contacts := by
  have found : (Ending.replied (some answer)).reply?.join = some answer := rfl
  obtain ⟨policy, lookup, uncached, rfl, -⟩ := course.behind
  intro cached
  simp [contactsToCache] at cached
  rw [← cached.2, found] at uncached
  cases uncached

/-- A request that the cache has an answer for ends with that answer, if it ends. -/
theorem Course.ok_of_cached {outcome : Outcome}
    (course : Course request contacts (.finished outcome)) {name : Name} {answer : Answer}
    (cached : (.lookup name, .lookup (.replied (some answer))) ∈ contacts) :
    ∃ decision, outcome = .ok (resolutionOf request decision answer .cache) := by
  have found : (Ending.replied (some answer)).reply?.join = some answer := rfl
  cases outcome with
  | ok resolution =>
    obtain ⟨before, submit, settles, rfl⟩ := course.behind
    rcases settles with ⟨policy, cachedAnswer, rfl, rfl⟩ |
      ⟨policy, lookup, reply, fill, uncached, rfl, rfl⟩
    · refine ⟨policy.reply?.getD .unknown, ?_⟩
      simp [contactsToCache] at cached
      rw [cached.2]
    · simp [contactsToCache, contactsToQuorum, contactsToFill] at cached
      rw [← cached.2, found] at uncached
      cases uncached
  | error failure =>
    obtain ⟨policy, lookup, query, uncached, -, rfl, -⟩ := course.behind
    simp [contactsToCache, contactsToQuorum] at cached
    rw [← cached.2, found] at uncached
    cases uncached

end Contacts

end GatedResolver.Resolver
