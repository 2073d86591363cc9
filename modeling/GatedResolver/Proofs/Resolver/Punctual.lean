import GatedResolver.Proofs.Resolver.Rehearsed

/-!
# Requests that keep to their timetable

A request of a quiet rehearsal makes the calls of its itinerary one after the other, and its
visitors' book is the timetable of these calls. `Underway` is what every step preserves: the calls
that can still be made will go as they would have gone at the start (`advance_visited`). A run
follows from its steps by induction on their count (`runFor_visited`), and `resolve_punctual` says
what comes of a whole request.

All of this is for a client that waits as long as it takes, and for collaborators that live
through their calls. The keeper of receipts is called in a task of its own and may die there.
-/

namespace GatedResolver.Resolver.Rehearsal

/-- No collaborator dies in its next call, apart from the keeper of receipts. -/
def LivesThrough (rehearsal : Rehearsal) : Prop :=
  ∀ call, (∀ resolution, call ≠ .submit resolution) →
    (rehearsal.scripts.behaviour call).dies = false

/-- A rehearsal in the course of a request of which so many calls can still be made. In each of
them the collaborators do what they were about to do at the start. -/
structure Underway (start : Rehearsal) (left : Nat) (now : Rehearsal) : Prop where
  quiet : now.Quiet
  panel : now.panel = start.panel
  limitMs : now.limitMs = start.limitMs
  behaviour : ∀ call : Call, call.place ≤ left →
    now.scripts.behaviour call = start.scripts.behaviour call
  cache : 4 ≤ left → now.cache = start.cache

section Underway

variable {start now after : Rehearsal}

/-- With fewer calls to come there is less to be said about them. -/
theorem Underway.mono {left fewer : Nat} (underway : Underway start left now)
    (le : fewer ≤ left) : Underway start fewer now where
  quiet := underway.quiet
  panel := underway.panel
  limitMs := underway.limitMs
  behaviour := fun call due => underway.behaviour call (Nat.le_trans due le)
  cache := fun due => underway.cache (Nat.le_trans due le)

/-- Warnings change nothing for the calls to come. -/
theorem Underway.warned {left : Nat} (underway : Underway start left now)
    (warnings : List Warning) : Underway start left { now with warnings := warnings } where
  quiet := ⟨underway.quiet.ready, underway.quiet.running⟩
  panel := underway.panel
  limitMs := underway.limitMs
  behaviour := underway.behaviour
  cache := underway.cache

section Due

variable {call : Call} (underway : Underway start call.place now)
include underway

/-- A call that is due lasts as long as it would have at the start. -/
theorem Underway.lastsMs_eq : now.lastsMs call = start.lastsMs call := by
  rw [lastsMs, lastsMs, underway.behaviour call (Nat.le_refl _), underway.limitMs]

/-- Behind a call that was due only the calls to come are left. -/
theorem Underway.made {durationMs : Nat} (made : Made now after call durationMs) :
    Underway start (call.place - 1) after where
  quiet := made.quiet
  panel := made.panel.trans underway.panel
  limitMs := made.limitMs.trans underway.limitMs
  behaviour := fun later due => by
    have behind : later.place < call.place := by
      have positive : 0 < later.place := by cases later <;> simp [Call.place]
      omega
    rw [made.behaviour later behind, underway.behaviour later (Nat.le_of_lt behind)]
  cache := fun due => by
    have first : call = .policy := by
      cases call with
      | policy => rfl
      | _ => simp [Call.place] at due
    rw [made.cache first, underway.cache (Nat.le_trans due (Nat.sub_le ..))]

end Due

/-- A call that is due ends as it would have at the start. -/
theorem Underway.policy_eq (underway : Underway start 5 now) :
    now.foreseen.policy = start.foreseen.policy := by
  have same : upcoming now.scripts.policy = upcoming start.scripts.policy :=
    underway.behaviour .policy (Nat.le_refl 5)
  simp only [foreseen, same, underway.limitMs]

theorem Underway.lookup_eq (underway : Underway start 4 now) (name : Name) :
    now.foreseen.lookup name = start.foreseen.lookup name := by
  have same : upcoming now.scripts.lookup = upcoming start.scripts.lookup :=
    underway.behaviour (.lookup name) (Nat.le_refl 4)
  simp only [foreseen, same, underway.cache (Nat.le_refl 4), underway.limitMs]

theorem Underway.query_eq (underway : Underway start 3 now) (name : Name) :
    now.foreseen.query name = start.foreseen.query name := by
  have same : upcoming now.scripts.query = upcoming start.scripts.query :=
    underway.behaviour (.query name) (Nat.le_refl 3)
  simp only [foreseen, same, underway.panel, underway.limitMs]

theorem Underway.fill_eq (underway : Underway start 2 now) (name : Name) (answer : Answer) :
    now.foreseen.fill name answer = start.foreseen.fill name answer := by
  have same : upcoming now.scripts.fill = upcoming start.scripts.fill :=
    underway.behaviour (.fill name answer) (Nat.le_refl 2)
  simp only [foreseen, same, underway.limitMs]

theorem Underway.submit_eq (underway : Underway start 1 now) (resolution : Resolution) :
    now.foreseen.submit resolution = start.foreseen.submit resolution := by
  have same : upcoming now.scripts.submit = upcoming start.scripts.submit :=
    underway.behaviour (.submit resolution) (Nat.le_refl 1)
  simp only [foreseen, same, underway.limitMs]

end Underway

/-- The time at which a call is made or has ended. -/
def clock : Step Nat :=
  return (← get).nowMs

section Book

variable {start now after : Rehearsal}

theorem clock_eq : clock none now = (.ok now.nowMs, now) :=
  rfl

/-- A call is entered into the book with its times. -/
theorem enter_eq {α : Type} {work : Step α} {ending : α}
    (worked : work none now = (.ok ending, after)) (call : Call) (book : List Visit) :
    (enter clock call work).run book none now =
      (.ok (ending, book ++ [⟨call, now.nowMs, after.nowMs⟩]), after) := by
  have entered : (enter clock call work).run book = do
      let madeMs ← clock
      let ending ← work
      let endedMs ← clock
      return (ending, book ++ [⟨call, madeMs, endedMs⟩]) := by
    simp [enter]
  rw [entered, bind_of_ok clock_eq, bind_of_ok worked, bind_of_ok clock_eq]
  rfl

/-- What a request has done between two rehearsals in which it made some calls: it took the time
of all of them, and they are noted in their order. -/
structure Visited (start now after : Rehearsal) (calls : List Call) : Prop where
  nowMs : after.nowMs = now.nowMs + (calls.map start.lastsMs).sum
  calls : after.calls = calls.reverse ++ now.calls

/-- The calls of one part of a request and those of the next. -/
theorem Visited.trans {between : Rehearsal} {calls later : List Call}
    (first : Visited start now between calls) (second : Visited start between after later) :
    Visited start now after (calls ++ later) where
  nowMs := by
    rw [second.nowMs, first.nowMs, List.map_append, List.sum_append, Nat.add_assoc]
  calls := by
    rw [second.calls, first.calls, List.reverse_append, List.append_assoc]

end Book

section Requests

variable {start : Rehearsal}

/-- The collaborators of a rehearsal, whose visits are entered into a book. -/
abbrev visitedCollaborators : Collaborators (StateT (List Visit) Step) :=
  collaborators.entered clock

/-- A call that is due and is made brings a request one stage further. -/
theorem step_of_made {now after : Rehearsal} {call : Call}
    (underway : Underway start call.place now) {α β : Type} {work : Step α} {ending : α}
    (worked : work none now = (.ok ending, after)) (made : Made now after call (now.lastsMs call))
    (leads : α → β) (book : List Visit) :
    (enter clock call work >>= fun ending => pure (leads ending)).run book none now =
        (.ok (leads ending, book ++ timetable start.lastsMs now.nowMs [call]), after) ∧
      Underway start (call.place - 1) after ∧ Visited start now after [call] := by
  rw [underway.lastsMs_eq] at made
  refine ⟨?_, underway.made made, made.nowMs, made.calls⟩
  rw [StateT.run_bind, bind_of_ok (enter_eq worked call book), made.nowMs]
  rfl

variable (request : Request)

/-- A run makes a step, gives its warnings and goes on from where the step leads. -/
theorem runFor_of_step (count : Nat) {stage : Stage} {next : Stage × List Warning}
    {now advanced warned : Rehearsal} {book entered : List Visit}
    (stepped : (advance visitedCollaborators request stage).run book none now =
      (.ok (next, entered), advanced))
    (noted : (forM next.2 fun warning => StateT.lift (warn warning)).run entered none advanced =
      (.ok ((), entered), warned)) :
    (runFor visitedCollaborators (fun warning => StateT.lift (warn warning)) request (count + 1)
        stage).run book none now =
      (runFor visitedCollaborators (fun warning => StateT.lift (warn warning)) request count
        next.1).run entered none warned := by
  obtain ⟨next, warnings⟩ := next
  rw [runFor, StateT.run_bind, bind_of_ok stepped]
  dsimp only
  rw [List.forM_eq_forM, StateT.run_bind, bind_of_ok noted]

variable (lives : start.LivesThrough)
include lives

/-- A step of a request makes the call of its stage as it was foreseen at the start. -/
theorem advance_visited {stage : Stage} {now : Rehearsal}
    (underway : Underway start stage.callsLeft now) (book : List Visit) :
    ∃ after, (advance visitedCollaborators request stage).run book none now =
        (.ok (advance start.foreseen request stage,
          book ++ timetable start.lastsMs now.nowMs (stage.call? request).toList), after) ∧
      Underway start (stage.callsLeft - 1) after ∧
      Visited start now after (stage.call? request).toList := by
  have alive {call : Call} (due : call.place ≤ stage.callsLeft)
      (other : ∀ resolution, call ≠ .submit resolution) :
      (now.scripts.behaviour call).dies = false :=
    underway.behaviour call due ▸ lives call other
  cases stage with
  | policy =>
    obtain ⟨after, asked, made⟩ := askPolicy_eq underway.quiet (alive (Nat.le_refl 5) nofun)
    rw [underway.policy_eq] at asked
    exact ⟨after, step_of_made underway asked made (afterPolicy request) book⟩
  | lookup decision =>
    obtain ⟨after, asked, made⟩ :=
      askCache_eq underway.quiet request.name (alive (Nat.le_refl 4) nofun)
    rw [underway.lookup_eq] at asked
    exact ⟨after, step_of_made underway asked made (afterLookup request decision) book⟩
  | query decision =>
    obtain ⟨after, asked, made⟩ :=
      askQuorum_eq underway.quiet request.name (alive (Nat.le_refl 3) nofun)
    rw [underway.query_eq] at asked
    exact ⟨after, step_of_made underway asked made (afterQuery request decision) book⟩
  | fill decision answer =>
    obtain ⟨after, asked, made⟩ :=
      fillCache_eq underway.quiet request.name answer (alive (Nat.le_refl 2) nofun)
    rw [underway.fill_eq] at asked
    exact ⟨after, step_of_made underway asked made (afterFill request decision answer) book⟩
  | submit resolution =>
    obtain ⟨after, handed, made⟩ := handIn_eq underway.quiet resolution
    rw [underway.submit_eq] at handed
    exact ⟨after, step_of_made underway handed made (afterSubmit request resolution) book⟩
  | finished outcome =>
    refine ⟨now, ?_, underway, rfl, rfl⟩
    rw [Stage.call?, Option.toList_none, timetable, List.append_nil]
    rfl

omit lives in
/-- Warnings are noted, and the book and the calls to come stay as they are. -/
theorem warn_visited {left : Nat} {now : Rehearsal} (underway : Underway start left now)
    (warnings : List Warning) (book : List Visit) :
    ∃ after, (forM warnings fun warning => StateT.lift (warn warning)).run book none now =
        (.ok ((), book), after) ∧
      Underway start left after ∧ Visited start now after [] := by
  rw [run_forM_lift]
  have noted : ∃ log, (forM warnings warn : Step PUnit) none now =
      (.ok (), { now with warnings := log }) := by
    induction warnings generalizing now with
    | nil => exact ⟨now.warnings, rfl⟩
    | cons warning rest inductionHypothesis =>
      obtain ⟨log, noted⟩ := inductionHypothesis (underway.warned (warning :: now.warnings))
      exact ⟨log, noted⟩
  obtain ⟨log, noted⟩ := noted
  refine ⟨{ now with warnings := log }, ?_, underway.warned log, rfl, rfl⟩
  rw [← bind_pure_comp, bind_of_ok noted]
  rfl

/-- So many steps of a request make the calls of these steps as they were foreseen at the start. -/
theorem runFor_visited (count : Nat) {stage : Stage} {now : Rehearsal}
    (underway : Underway start stage.callsLeft now) (book : List Visit) :
    ∃ after,
      (runFor visitedCollaborators (fun warning => StateT.lift (warn warning)) request count
          stage).run book none now =
        (.ok (runFor start.foreseen (fun _ => pure ()) request count stage,
          book ++ timetable start.lastsMs now.nowMs (callsFrom start.foreseen request count stage)),
          after) ∧
      after.Quiet ∧
      Visited start now after (callsFrom start.foreseen request count stage) := by
  induction count generalizing stage now book with
  | zero =>
    refine ⟨now, ?_, underway.quiet, rfl, rfl⟩
    rw [callsFrom, timetable, List.append_nil]
    rfl
  | succ count inductionHypothesis =>
    obtain ⟨advanced, stepped, underwayStep, visitedStep⟩ :=
      advance_visited request lives underway book
    obtain ⟨warned, noted, underwayWarned, visitedWarned⟩ :=
      warn_visited underwayStep (advance start.foreseen request stage).2
        (book ++ timetable start.lastsMs now.nowMs (stage.call? request).toList)
    obtain ⟨after, ran, quiet, visitedRest⟩ := inductionHypothesis
      (underwayWarned.mono (callsLeft_advance start.foreseen request stage))
      (book ++ timetable start.lastsMs now.nowMs (stage.call? request).toList)
    have first := visitedStep.trans visitedWarned
    rw [List.append_nil] at first
    refine ⟨after, ?_, quiet, first.trans visitedRest⟩
    rw [runFor_of_step request count stepped noted, ran, first.nowMs, List.append_assoc,
      ← timetable_append]
    rfl

end Requests

/-- What a collaborator replies, it replies in time. -/
theorem durationMs_le_of_replies {rehearsal : Rehearsal} {call : Call}
    (replies : rehearsal.foreseen.Replies call) :
    (rehearsal.scripts.behaviour call).durationMs ≤ rehearsal.limitMs := by
  cases call with
  | submit resolution =>
    obtain ⟨submission, replied⟩ := replies
    simp only [foreseen, Behaviour.submission] at replied
    split at replied
    · cases replied
    · next inTime => exact Nat.le_of_not_lt inTime
  | policy =>
    obtain ⟨decision, replied⟩ := replies
    exact Behaviour.le_of_ending_eq_replied _ replied
  | lookup name =>
    obtain ⟨found, replied⟩ := replies
    exact Behaviour.le_of_ending_eq_replied (.ok (rehearsal.cache.find? name)) replied
  | query name =>
    obtain ⟨reply, replied⟩ := replies
    exact Behaviour.le_of_ending_eq_replied _ replied
  | fill name answer =>
    obtain ⟨done, replied⟩ := replies
    exact Behaviour.le_of_ending_eq_replied (.ok ()) replied

/-- A request of a rehearsal, with a book of its calls, for a client that waits as long as it
takes. -/
def resolveVisited (rehearsal : Rehearsal) (name : Name) :
    Except Interruption (Outcome × List Visit) × Rehearsal :=
  (run visitedCollaborators (fun warning => StateT.lift (warn warning))
      ⟨name, rehearsal.limitMs⟩).run [] none
    { rehearsal with watchful := decide (0 < rehearsal.credit) }

/-- To read the clock changes nothing. -/
theorem clock_bind {α : Type} (next : Step α) : (clock >>= fun _ => next) = next :=
  rfl

/-- A request does the same if its calls are entered into a book. -/
theorem resolve_eq_visited (rehearsal : Rehearsal) (name : Name) :
    rehearsal.resolve name none =
      (⟨resultOf ((rehearsal.resolveVisited name).1.map Prod.fst),
          (rehearsal.resolveVisited name).2.nowMs - rehearsal.nowMs,
          (rehearsal.resolveVisited name).2.calls.reverse,
          (rehearsal.resolveVisited name).2.warnings.reverse⟩,
        { (rehearsal.resolveVisited name).2 with calls := [], warnings := [] }) := by
  have forgotten := run_entered clock_bind collaborators warn ⟨name, rehearsal.limitMs⟩ []
  unfold resolve resolveVisited
  dsimp only
  rw [← forgotten, ReaderT.run, ExceptT.run, Option.map_none, map_eq]

/-- With a book a request gives its outcome and the timetable of its calls. -/
theorem resolveVisited_eq {rehearsal : Rehearsal} (quiet : rehearsal.Quiet)
    (lives : rehearsal.LivesThrough) (name : Name) :
    let request : Request := ⟨name, rehearsal.limitMs⟩
    let outcome := run rehearsal.foreseen (fun _ => pure ()) request
    let calls := itinerary rehearsal.foreseen request outcome
    (rehearsal.resolveVisited name).1 =
        .ok (outcome, timetable rehearsal.lastsMs rehearsal.nowMs calls) ∧
      (rehearsal.resolveVisited name).2.Quiet ∧
      Visited rehearsal rehearsal (rehearsal.resolveVisited name).2 calls := by
  intro request outcome calls
  let begun : Rehearsal := { rehearsal with watchful := decide (0 < rehearsal.credit) }
  have underway : Underway rehearsal Stage.policy.callsLeft begun :=
    ⟨⟨quiet.ready, quiet.running⟩, rfl, rfl, fun _ _ => rfl, fun _ => rfl⟩
  obtain ⟨after, ran, rest, visited⟩ := runFor_visited request lives longestRun underway []
  have made : callsFrom rehearsal.foreseen request longestRun .policy = calls :=
    callsFrom_policy rehearsal.foreseen request fun _ => pure ()
  have resolved : rehearsal.resolveVisited name =
      (.ok (outcome, timetable rehearsal.lastsMs rehearsal.nowMs calls), after) := by
    rw [resolveVisited, run, StateT.run_bind, bind_of_ok ran, made]
    rfl
  rw [made] at visited
  rw [resolved]
  exact ⟨rfl, rest, visited.nowMs, visited.calls⟩

/-- A rehearsal in which the policy comes too late to matter, the cache is cut off and then cannot
be filled, and the keeper of receipts dies. -/
def unsteady : Rehearsal where
  panel := ⟨["one"], ⟨"A", 60, "203.0.113.10"⟩, none⟩
  limitMs := 100
  nowMs := 20
  scripts :=
    { policy := [{ delayMs := some 100, failure := some (.policySource "gone") }]
      lookup := [{ delayMs := some 250 }]
      query := [{ delayMs := some 30 }]
      fill := [{ delayMs := some 7, failure := some (.unavailable "cache" "full") }]
      submit := [{ delayMs := some 40, dies := true }] }

end GatedResolver.Resolver.Rehearsal
