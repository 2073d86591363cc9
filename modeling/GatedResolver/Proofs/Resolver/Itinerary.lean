import Mathlib.Algebra.Ring.Nat
import GatedResolver.Proofs.Resolver.Outcome

/-!
# The calls of a request

`itinerary` lists the calls of a request in their order, by what its collaborators deliver, and
`callsFrom_policy` says that the stages of a request come to just these calls.

`Collaborators.entered` keeps a visitors' book: each call is entered with the time at which it
was made and the time at which it ended, on a clock that is read and not changed.
`run_runFor_entered` forgets the book. Calls that are made one after the other, each when the
one before it has ended, fill the book as `timetable` says.
-/

namespace GatedResolver.Resolver

section Calls

variable (collaborators : Collaborators Id) (request : Request)

/-- The calls that a request makes in so many steps from a stage on. -/
def callsFrom : Nat → Stage → List Call
  | 0, _ => []
  | count + 1, stage =>
    (stage.call? request).toList ++
      callsFrom count (advance collaborators request stage).1

/-- The calls about an answer that the cache did not deliver: the quorum is asked, and what it
replies goes into the cache. -/
def callsForAnswer : List Call :=
  .query request.name ::
    match (collaborators.query request.name).reply? with
    | some reply => [.fill request.name ⟨reply.recordType, reply.ttl, reply.data⟩]
    | none => []

/-- The call about a receipt: a resolution is handed in. -/
def callsForReceipt : Outcome → List Call
  | .ok resolution => [.submit resolution]
  | .error _ => []

/-- The calls of a request with an outcome. -/
def itinerary (outcome : Outcome) : List Call :=
  [.policy, .lookup request.name] ++
    (match (collaborators.lookup request.name).reply?.join with
      | some _ => []
      | none => callsForAnswer collaborators request) ++
    callsForReceipt outcome

/-- A step makes the call of its stage before the calls of the stages behind it. -/
theorem callsFrom_succ (count : Nat) (stage : Stage) :
    callsFrom collaborators request (count + 1) stage =
      (stage.call? request).toList ++
        callsFrom collaborators request count (advance collaborators request stage).1 :=
  rfl

/-- A request that is finished makes no more calls. -/
theorem callsFrom_finished (count : Nat) (outcome : Outcome) :
    callsFrom collaborators request count (.finished outcome) = [] := by
  induction count with
  | zero => rfl
  | succ count inductionHypothesis =>
    rw [callsFrom_succ]
    exact inductionHypothesis

/-- A request that has a resolution makes one more call. -/
theorem callsFrom_submit (count : Nat) (resolution : Resolution) :
    callsFrom collaborators request (count + 1) (.submit resolution) = [.submit resolution] := by
  rw [callsFrom_succ, advance_submit, callsFrom_finished]
  rfl

/-- A request that the cache has no answer for asks the quorum, and with a reply it fills the
cache and has a resolution. -/
theorem callsFrom_query (count : Nat) (decision : Policy.Decision) :
    callsFrom collaborators request (count + 3) (.query decision) =
      callsForAnswer collaborators request ++
        callsForReceipt (verdict request.name (.replied decision) (.replied none)
          (collaborators.query request.name)) := by
  rw [callsFrom_succ, advance_query]
  simp only [callsForAnswer, verdict, found?]
  cases (collaborators.query request.name).reply? with
  | none =>
    dsimp only
    rw [callsFrom_finished]
    rfl
  | some reply =>
    dsimp only
    rw [callsFrom_succ, advance_fill, callsFrom_submit]
    rfl

/-- A request makes the calls of its itinerary, from its beginning to its end. -/
theorem callsFrom_policy (warn : Warning → Id Unit) :
    callsFrom collaborators request longestRun .policy =
      itinerary collaborators request (run collaborators warn request) := by
  rw [run_eq_verdict, longestRun, callsFrom_succ, advance_policy, callsFrom_succ, advance_lookup]
  simp only [itinerary, verdict, found?]
  cases (collaborators.lookup request.name).reply?.join with
  | some answer =>
    dsimp only
    rw [callsFrom_submit]
    rfl
  | none =>
    dsimp only
    rw [callsFrom_query]
    rfl

/-- Each step makes at most one call. -/
theorem length_callsFrom_le (count : Nat) (stage : Stage) :
    (callsFrom collaborators request count stage).length ≤ count := by
  induction count generalizing stage with
  | zero => exact Nat.le_refl 0
  | succ count inductionHypothesis =>
    have behind := inductionHypothesis (advance collaborators request stage).1
    have one : (stage.call? request).toList.length ≤ 1 := by cases stage <;> simp [Stage.call?]
    rw [callsFrom_succ, List.length_append]
    omega

/-- A request makes none of its calls twice. -/
theorem nodup_itinerary (outcome : Outcome) :
    (itinerary collaborators request outcome).Nodup := by
  unfold itinerary callsForAnswer callsForReceipt
  cases (collaborators.lookup request.name).reply?.join <;>
    cases (collaborators.query request.name).reply? <;>
    cases outcome <;> simp

/-- A call to which a collaborator replies. -/
def Collaborators.Replies (collaborators : Collaborators Id) : Call → Prop
  | .policy => ∃ decision, collaborators.policy = .replied decision
  | .lookup name => ∃ found, collaborators.lookup name = .replied found
  | .query name => ∃ reply, collaborators.query name = .replied reply
  | .fill name answer => ∃ done, collaborators.fill name answer = .replied done
  | .submit resolution => ∃ submission, collaborators.submit resolution = .replied submission

end Calls

/-- A call that was made, with the time at which it was made and the time at which it had
replied or failed or was cut off. -/
structure Visit where
  call : Call
  madeMs : Nat
  endedMs : Nat
deriving DecidableEq

/-- The visits of calls that are made from a time on, each when the one before it has ended. -/
def timetable (lastsMs : Call → Nat) : Nat → List Call → List Visit
  | _, [] => []
  | nowMs, call :: later =>
    ⟨call, nowMs, nowMs + lastsMs call⟩ :: timetable lastsMs (nowMs + lastsMs call) later

section Timetables

variable (lastsMs : Call → Nat)

/-- Calls in two parts are made one part after the other. -/
theorem timetable_append (nowMs : Nat) (calls later : List Call) :
    timetable lastsMs nowMs (calls ++ later) =
      timetable lastsMs nowMs calls ++
        timetable lastsMs (nowMs + (calls.map lastsMs).sum) later := by
  induction calls generalizing nowMs with
  | nil => rfl
  | cons call calls inductionHypothesis =>
    simp [timetable, inductionHypothesis, Nat.add_assoc]

/-- Calls that last no longer than a limit take no longer than so many limits. -/
theorem sum_lastsMs_le {limitMs : Nat} (within : ∀ call, lastsMs call ≤ limitMs)
    (calls : List Call) : (calls.map lastsMs).sum ≤ calls.length * limitMs := by
  induction calls with
  | nil => exact Nat.zero_le _
  | cons call later inductionHypothesis =>
    have first := within call
    rw [List.map_cons, List.sum_cons, List.length_cons, Nat.succ_mul]
    omega

/-- No call of a timetable is made before its beginning. -/
theorem le_madeMs_of_mem_timetable {nowMs : Nat} {calls : List Call} {visit : Visit}
    (made : visit ∈ timetable lastsMs nowMs calls) : nowMs ≤ visit.madeMs := by
  induction calls generalizing nowMs with
  | nil => cases made
  | cons call later inductionHypothesis =>
    rcases List.mem_cons.mp made with rfl | behind
    · exact Nat.le_refl nowMs
    · exact Nat.le_trans (Nat.le_add_right ..) (inductionHypothesis behind)

/-- In a timetable each call is made when all calls before it have ended. -/
theorem timetable_inTurn (nowMs : Nat) (calls : List Call) :
    (timetable lastsMs nowMs calls).Pairwise fun earlier later =>
      earlier.endedMs ≤ later.madeMs := by
  induction calls generalizing nowMs with
  | nil => exact .nil
  | cons call later inductionHypothesis =>
    refine List.pairwise_cons.mpr ⟨?_, inductionHypothesis _⟩
    intro visit behind
    exact le_madeMs_of_mem_timetable lastsMs behind

end Timetables

section Book

variable {m : Type → Type} [Monad m]

/-- Make a call and enter it into the visitors' book. -/
def enter {α : Type} (clock : m Nat) (call : Call) (work : m α) : StateT (List Visit) m α := do
  let madeMs ← clock
  let ending ← work
  let endedMs ← clock
  modify (· ++ [⟨call, madeMs, endedMs⟩])
  return ending

/-- Collaborators whose visits are entered into a book. -/
def Collaborators.entered (collaborators : Collaborators m) (clock : m Nat) :
    Collaborators (StateT (List Visit) m) where
  policy := enter clock .policy collaborators.policy
  lookup name := enter clock (.lookup name) (collaborators.lookup name)
  query name := enter clock (.query name) (collaborators.query name)
  fill name answer := enter clock (.fill name answer) (collaborators.fill name answer)
  submit resolution := enter clock (.submit resolution) (collaborators.submit resolution)

variable [LawfulMonad m]

/-- Warnings are not entered into the book. -/
theorem run_forM_lift (warn : Warning → m Unit) (warnings : List Warning) (book : List Visit) :
    (forM warnings fun warning => StateT.lift (warn warning)).run book =
      (fun _ => ((), book)) <$> forM warnings warn := by
  induction warnings with
  | nil => simp
  | cons warning rest inductionHypothesis => simp [inductionHypothesis]

variable {clock : m Nat}
  (reads : ∀ {α : Type} (next : m α), (clock >>= fun _ => next) = next)
include reads

/-- A call does the same if it is entered into the book. -/
theorem run_enter {α : Type} (call : Call) (work : m α) (book : List Visit) :
    Prod.fst <$> (enter clock call work).run book = work := by
  have dropped (ending : α) : (fun _ => ending) <$> clock = pure ending := by
    rw [← bind_pure_comp, reads]
  simp [enter, reads, dropped]

variable (collaborators : Collaborators m) (warn : Warning → m Unit) (request : Request)

/-- A step does the same if its call is entered into the book. -/
theorem run_advance_entered (stage : Stage) (book : List Visit) :
    Prod.fst <$> (advance (collaborators.entered clock) request stage).run book =
      advance collaborators request stage := by
  have entered {α β : Type} (call : Call) (work : m α) (leads : α → β) :
      (fun visited => leads visited.1) <$> (enter clock call work).run book = leads <$> work := by
    calc (fun visited => leads visited.1) <$> (enter clock call work).run book
        = leads <$> Prod.fst <$> (enter clock call work).run book := (Functor.map_map ..).symm
      _ = leads <$> work := by rw [run_enter reads]
  cases stage with
  | finished outcome => simp [advance]
  | _ => simp [advance, Collaborators.entered, entered]

/-- A request does the same if its calls are entered into a book. -/
theorem run_runFor_entered (count : Nat) (stage : Stage) (book : List Visit) :
    Prod.fst <$> (runFor (collaborators.entered clock) (fun warning => StateT.lift (warn warning))
        request count stage).run book =
      runFor collaborators warn request count stage := by
  induction count generalizing stage book with
  | zero => simp [runFor]
  | succ count inductionHypothesis =>
    rw [runFor, runFor, ← run_advance_entered reads collaborators request stage book]
    simp [inductionHypothesis, run_forM_lift]

/-- A whole request does the same if its calls are entered into a book. -/
theorem run_entered (book : List Visit) :
    Prod.fst <$> (run (collaborators.entered clock) (fun warning => StateT.lift (warn warning))
        request).run book =
      run collaborators warn request := by
  rw [run, run, ← run_runFor_entered reads collaborators warn request longestRun .policy book]
  simp

end Book

end GatedResolver.Resolver
