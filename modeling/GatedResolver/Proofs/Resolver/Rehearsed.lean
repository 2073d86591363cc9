import GatedResolver.Proofs.Resolver.Itinerary
import GatedResolver.Resolver.Rehearsal.Request

/-!
# The calls of a rehearsal

`foreseen` says how the calls of the next request will end, and `lastsMs` how long they will last,
by what the scripts have next. A rehearsal is quiet while no task is about, and in a quiet
rehearsal a request that its client waits for makes each call just so: `askPolicy_eq` to
`handIn_eq` give the ending of the call, and `Made` what it leaves to the calls that come after.

Steps are taken one at a time by `bind_of_ok`, each from the rehearsal before it to the one after.
-/

namespace GatedResolver.Resolver

/-- How a call ends under a time limit if the collaborator lives through it: it is cut off, or it
fails, or it succeeds with what the collaborator has. A call that ends exactly at the limit ends
in time. -/
def Behaviour.ending {α : Type} (behaviour : Behaviour) (limitMs : Nat)
    (effect : Except Failure α) : Ending α :=
  if limitMs < behaviour.durationMs then .overran
  else
    match behaviour.failure with
    | some failure => .failed failure
    | none =>
      match effect with
      | .ok value => .replied value
      | .error failure => .failed failure

/-- What a call of a living collaborator delivers, it delivers in time. -/
theorem Behaviour.le_of_ending_eq_replied {α : Type} {behaviour : Behaviour} {limitMs : Nat}
    (effect : Except Failure α) {value : α}
    (delivered : behaviour.ending limitMs effect = .replied value) :
    behaviour.durationMs ≤ limitMs := by
  unfold ending at delivered
  split at delivered
  · cases delivered
  · next inTime => exact Nat.le_of_not_lt inTime

/-- The behaviour in the next call of a script. -/
def upcoming (script : Script) : Behaviour :=
  (nextBehaviour script).1

/-- What each collaborator does when it is called next. -/
def Scripts.behaviour (scripts : Scripts) : Call → Behaviour
  | .policy => upcoming scripts.policy
  | .lookup _ => upcoming scripts.lookup
  | .query _ => upcoming scripts.query
  | .fill _ _ => upcoming scripts.fill
  | .submit _ => upcoming scripts.submit

/-- How many calls are still to be made when a call is due, with it. -/
def Call.place : Call → Nat
  | .policy => 5
  | .lookup _ => 4
  | .query _ => 3
  | .fill _ _ => 2
  | .submit _ => 1

namespace Rehearsal

/-- How the calls of the next request end. -/
def foreseen (rehearsal : Rehearsal) : Collaborators Id where
  policy :=
    let behaviour := upcoming rehearsal.scripts.policy
    behaviour.ending rehearsal.limitMs
      (documentOr Policy.Decision.decoder behaviour.document (.ofState .allow))
  lookup name :=
    (upcoming rehearsal.scripts.lookup).ending rehearsal.limitMs (.ok (rehearsal.cache.find? name))
  query name :=
    let behaviour := upcoming rehearsal.scripts.query
    behaviour.ending rehearsal.limitMs
      (documentOr Quorum.Reply.decoder behaviour.document (rehearsal.panel.reply name))
  fill _ _ := (upcoming rehearsal.scripts.fill).ending rehearsal.limitMs (.ok ())
  submit _ := (upcoming rehearsal.scripts.submit).submission rehearsal.limitMs

/-- How long a call of the next request lasts: as long as the collaborator takes, but no longer
than the limit. -/
def lastsMs (rehearsal : Rehearsal) (call : Call) : Nat :=
  min (rehearsal.scripts.behaviour call).durationMs rehearsal.limitMs

/-- A rehearsal without tasks. -/
structure Quiet (rehearsal : Rehearsal) : Prop where
  ready : rehearsal.ready = []
  running : rehearsal.running = []

/-- What passes between two rehearsals in which nothing is done but wait. -/
def Waited (before after : Rehearsal) (durationMs : Nat) : Prop :=
  ∃ credit watchful, after =
    { before with nowMs := before.nowMs + durationMs, credit := credit, watchful := watchful }

section Steps

variable {α β : Type} {before after : Rehearsal}

/-- A step that succeeds goes on with the next one. -/
theorem bind_of_ok {step : Step α} {value : α} (succeeds : step none before = (.ok value, after))
    (next : α → Step β) : (step >>= next) none before = next value none after := by
  show (ExceptT.bind (step none) fun value => next value none) before = _
  unfold ExceptT.bind ExceptT.mk
  simp [bind, StateT.bind, ExceptT.bindCont, succeeds]

/-- A change of what a step gives changes nothing else. -/
theorem map_eq (change : α → β) (step : Step α) :
    (change <$> step) none before = ((step none before).1.map change, (step none before).2) := by
  show (ExceptT.map change (step none)) before = _
  unfold ExceptT.map ExceptT.mk
  rcases ended : step none before with ⟨_ | value, after⟩
  · simp only [bind, StateT.bind, ended]
    rfl
  · simp only [bind, StateT.bind, ended]
    rfl

theorem get_eq : (get : Step Rehearsal) none before = (.ok before, before) :=
  rfl

theorem read_eq : (read : Step (Option Nat)) none before = (.ok none, before) :=
  rfl

theorem modify_eq (change : Rehearsal → Rehearsal) :
    (modify change : Step PUnit) none before = (.ok (), change before) :=
  rfl

/-- A client that waits as long as it takes never loses patience. -/
theorem patienceIsOver_eq : patienceIsOver none before = (.ok false, before) :=
  rfl

theorem heedPatience_eq : heedPatience none before = (.ok (), before) :=
  rfl

theorem beginPass_eq : beginPass none before = (.ok (), before.beginWait) := by
  rw [beginPass, bind_of_ok get_eq, bind_of_ok patienceIsOver_eq, Bool.and_false, if_neg (by decide)]
  rfl

theorem pass_eq (durationMs : Nat) : pass durationMs none before =
    (.ok (), (before.beginWait.waitUntil (before.beginWait.nowMs + durationMs)).pay) := by
  rw [pass, bind_of_ok beginPass_eq, bind_of_ok get_eq, bind_of_ok read_eq,
    bind_of_ok (modify_eq _), Option.getD_none, Nat.min_self, if_neg (Nat.lt_irrefl _)]
  rfl

theorem takeBehaviour_eq (select : Scripts → Script) (replace : Scripts → Script → Scripts) :
    takeBehaviour select replace none before =
      (.ok (upcoming (select before.scripts)),
        { before with
          scripts := replace before.scripts (nextBehaviour (select before.scripts)).2 }) :=
  rfl

end Steps

section QuietWaits

variable {before : Rehearsal} (quiet : before.Quiet)
include quiet

/-- Without tasks a wait begins at once. -/
theorem waited_beginWait : Waited before before.beginWait 0 := by
  obtain ⟨ready, running⟩ := quiet
  unfold beginWait
  split
  · refine ⟨fullCredit, true, ?_⟩
    simp [makeRoom, takeFirst, refresh, ready]
  · exact ⟨before.credit, before.watchful, rfl⟩

/-- Without tasks nothing is done until the time that is waited for. -/
theorem waited_waitUntil (durationMs : Nat) :
    Waited before (before.waitUntil (before.nowMs + durationMs)) durationMs := by
  obtain ⟨ready, running⟩ := quiet
  unfold waitUntil
  split
  · next late =>
    obtain rfl : durationMs = 0 := by omega
    exact ⟨before.credit, before.watchful, rfl⟩
  · refine ⟨fullCredit, true, ?_⟩
    simp [takeTurns, takeFirst, finishBefore, refresh, ready, running]

/-- Who only waits makes no tasks. -/
theorem Waited.leavesQuiet {after : Rehearsal} {durationMs : Nat}
    (waited : Waited before after durationMs) : after.Quiet := by
  obtain ⟨credit, watchful, rfl⟩ := waited
  exact ⟨quiet.ready, quiet.running⟩

/-- Without tasks a request does nothing while it waits. -/
theorem pass_of_quiet (durationMs : Nat) :
    ∃ after, pass durationMs none before = (.ok (), after) ∧ Waited before after durationMs := by
  refine ⟨_, pass_eq durationMs, ?_⟩
  have begun := waited_beginWait quiet
  have waited := waited_waitUntil (begun.leavesQuiet quiet) durationMs
  obtain ⟨credit, watchful, begun⟩ := begun
  obtain ⟨credit, watchful, waited⟩ := waited
  refine ⟨credit - 1, watchful, ?_⟩
  rw [waited, begun]
  rfl

end QuietWaits

section QuietCalls

variable {α : Type} {before : Rehearsal}

/-- What a living collaborator does after its wait. -/
theorem act_eq {behaviour : Behaviour} (lives : behaviour.dies = false)
    {effect : Step (Except Failure α)} {result : Except Failure α}
    {change : Rehearsal → Rehearsal}
    (effects : effect none before = (.ok result, change before))
    (inTime : behaviour.durationMs ≤ before.limitMs) :
    ∃ after, (after = before ∨ after = change before) ∧
      act behaviour effect none before = (.ok (behaviour.ending before.limitMs result), after) := by
  unfold act Behaviour.ending
  rw [lives, if_neg Bool.false_ne_true, if_neg (Nat.not_lt.mpr inTime)]
  cases behaviour.failure with
  | some failure => exact ⟨before, .inl rfl, rfl⟩
  | none =>
    refine ⟨change before, .inr rfl, ?_⟩
    cases result <;> exact bind_of_ok effects _

/-- A living collaborator takes as long as it says or is cut off, and its effect comes after its
wait if at all. -/
theorem perform_eq (change : Rehearsal → Rehearsal) (quiet : before.Quiet)
    {behaviour : Behaviour} (lives : behaviour.dies = false)
    {effect : Step (Except Failure α)} {result : Except Failure α}
    (effects : ∀ waited, Waited before waited behaviour.durationMs →
      effect none waited = (.ok result, change waited)) :
    ∃ waited after, Waited before waited (min behaviour.durationMs before.limitMs) ∧
      (after = waited ∨ after = change waited) ∧
      perform behaviour effect none before =
        (.ok (behaviour.ending before.limitMs result), after) := by
  rw [perform]
  cases waits : behaviour.waitMs? with
  | none =>
    have instant : behaviour.durationMs = 0 := by rw [Behaviour.durationMs, waits]; rfl
    have waited : Waited before before 0 := ⟨before.credit, before.watchful, rfl⟩
    rw [instant] at effects ⊢
    obtain ⟨after, either, acted⟩ :=
      act_eq lives (effects before waited) (instant ▸ Nat.zero_le before.limitMs)
    exact ⟨before, after, (Nat.zero_min before.limitMs).symm ▸ waited, either, acted⟩
  | some durationMs =>
    have lasts : behaviour.durationMs = durationMs := by rw [Behaviour.durationMs, waits]; rfl
    subst lasts
    obtain ⟨waited, passed, waits⟩ := pass_of_quiet quiet (min behaviour.durationMs before.limitMs)
    have sameLimit : waited.limitMs = before.limitMs := by
      obtain ⟨credit, watchful, rfl⟩ := waits
      rfl
    dsimp only
    rw [bind_of_ok get_eq, bind_of_ok passed]
    by_cases late : before.limitMs < behaviour.durationMs
    · rw [if_pos late]
      refine ⟨waited, waited, waits, .inl rfl, ?_⟩
      unfold Behaviour.ending
      rw [if_pos late]
      rfl
    · rw [if_neg late]
      rw [Nat.min_eq_left (Nat.le_of_not_lt late)] at waits ⊢
      obtain ⟨after, either, acted⟩ :=
        act_eq lives (effects waited waits) (sameLimit ▸ Nat.le_of_not_lt late)
      exact ⟨waited, after, waits, either, sameLimit ▸ acted⟩

end QuietCalls

/-- What a call leaves between two rehearsals without tasks: it is noted, it took its time, and
nothing has changed for the calls that come after it. -/
structure Made (before after : Rehearsal) (call : Call) (durationMs : Nat) : Prop where
  quiet : after.Quiet
  panel : after.panel = before.panel
  limitMs : after.limitMs = before.limitMs
  nowMs : after.nowMs = before.nowMs + durationMs
  calls : after.calls = call :: before.calls
  behaviour : ∀ later : Call, later.place < call.place →
    after.scripts.behaviour later = before.scripts.behaviour later
  cache : call = .policy → after.cache = before.cache

/-- No call comes after the receipt. -/
theorem not_place_lt_submit {call : Call} {resolution : Resolution} :
    ¬ call.place < (Call.submit resolution).place := by
  cases call <;> simp [Call.place]

section Tasks

variable {before now : Rehearsal} {resolution : Resolution}

/-- How the task of a receipt stands when it has made its call: it has ended at once, or it waits
alone. -/
structure Started (before now : Rehearsal) (resolution : Resolution) : Prop where
  ready : now.ready = []
  panel : now.panel = before.panel
  limitMs : now.limitMs = before.limitMs
  nowMs : now.nowMs = before.nowMs
  calls : now.calls = .submit resolution :: before.calls
  stands :
    (before.lastsMs (.submit resolution) = 0 ∧ now.running = [] ∧
      now.latestEnding = some (before.foreseen.submit resolution)) ∨
    (0 < before.lastsMs (.submit resolution) ∧ now.latestEnding = none ∧
      ∃ run, now.running = [run] ∧ run.task.number = now.taskCount ∧
        run.dueMs = before.nowMs + before.lastsMs (.submit resolution) ∧
        run.ending = before.foreseen.submit resolution)

/-- One turn that is due is carried out in one round. -/
theorem takeFirst_lone {turn : Turn} (lone : now.ready = [turn]) (count : Nat) :
    now.takeFirst (count + 1) = ({ now with ready := [] } : Rehearsal).take turn := by
  simp [takeFirst, lone]

/-- Without turns that are due there is nothing to carry out. -/
theorem takeTurns_none (none : now.ready = []) : now.takeTurns = now := by
  rw [takeTurns, none, takeFirst, List.length_nil, List.take_zero, List.foldl_nil, List.drop_zero]

/-- The new task makes its call in the first round. -/
theorem started_takeFirst (quiet : before.Quiet) (resolution : Resolution) (count : Nat) :
    Started before ((before.spawn resolution).takeFirst (count + 1)) resolution := by
  have lone : (before.spawn resolution).ready = [.start ⟨before.taskCount + 1, resolution⟩] := by
    rw [spawn, quiet.ready]
    rfl
  rw [takeFirst_lone lone, take, start]
  dsimp only
  split
  · next instant =>
    refine ⟨rfl, rfl, rfl, rfl, rfl, .inl ⟨instant, quiet.running, ?_⟩⟩
    simp [finish, spawn, note, foreseen, upcoming]
  · next lasting =>
    refine ⟨rfl, rfl, rfl, rfl, rfl, .inr ⟨Nat.pos_of_ne_zero lasting, rfl, ?_⟩⟩
    exact ⟨_, congrArg (insertRunning _) quiet.running, rfl, rfl, rfl⟩

/-- A task that waits alone is waited for until it is due. -/
theorem waitFor_lone {run : RunningTask} (ready : now.ready = []) (lone : now.running = [run])
    (later : now.nowMs < run.dueMs) :
    now.waitFor run =
      (({ now with nowMs := run.dueMs, ready := [], running := [] } : Rehearsal).finish run).refresh := by
  have waited : now.waitUntil run.dueMs =
      ({ now with nowMs := run.dueMs, ready := [.finish run], running := [] } :
        Rehearsal).refresh := by
    unfold waitUntil
    rw [if_neg (Nat.not_le.mpr later), takeTurns_none ready]
    simp [lone, finishBefore, refresh]
  have first : (now.waitUntil run.dueMs).ready.findIdx (·.task.number = run.task.number) = 0 := by
    rw [waited]
    simp [refresh, Turn.task]
  rw [waitFor, first, waited]
  rfl

/-- A client that waits as long as it takes waits for the task. -/
theorem awaitTask_eq (run : RunningTask) :
    awaitTask run none now = (.ok (), now.waitFor run) := by
  rw [awaitTask, bind_of_ok read_eq]
  rfl

/-- The latest task is waited for until it has ended. -/
theorem awaitLatest_eq (started : Started before now.takeTurns resolution) :
    ∃ after, awaitLatest none now = (.ok (before.foreseen.submit resolution), after) ∧
      Made before after (.submit resolution) (before.lastsMs (.submit resolution)) := by
  rw [awaitLatest, bind_of_ok heedPatience_eq, bind_of_ok (modify_eq _), bind_of_ok get_eq]
  obtain ⟨ready, panel, limitMs, nowMs, calls, stands⟩ := started
  rcases stands with ⟨instant, idle, ended⟩ | ⟨lasting, pending, run, alone, latest, due, ending⟩
  · refine ⟨now.takeTurns.refresh, ?_, ⟨ready, idle⟩, panel, limitMs, ?_, calls,
      fun _ later => absurd later not_place_lt_submit, nofun⟩
    · simp only [refresh, idle, ended, List.find?_nil]
      rfl
    · rw [instant, Nat.add_zero]
      exact nowMs
  · have found : now.takeTurns.refresh.running.find?
        (·.task.number = now.takeTurns.refresh.taskCount) = some run := by
      simp [refresh, alone, latest]
    have later : now.takeTurns.refresh.nowMs < run.dueMs := by
      rw [due]
      exact nowMs ▸ Nat.lt_add_of_pos_right lasting
    have idle : now.takeTurns.refresh.ready = [] := ready
    have waited := waitFor_lone idle alone later
    refine ⟨now.takeTurns.refresh.waitFor run, ?_, ?_⟩
    · rw [found]
      dsimp only
      rw [bind_of_ok (awaitTask_eq run), ending]
      rfl
    · rw [waited]
      exact ⟨⟨rfl, rfl⟩, panel, limitMs, due, calls,
        fun _ later => absurd later not_place_lt_submit, nofun⟩

/-- What a request does for the ending of its task, once it has begun to wait. -/
def awaitEnding (now : Rehearsal) : Step (Ending Submission) :=
  match now.latestEnding with
  | some ending => pure ending
  | none => awaitLatest

/-- A task that had its turn before the wait began may have ended by then. -/
theorem awaitEnding_of_started (started : Started before now resolution) :
    ∃ after, awaitEnding now none now = (.ok (before.foreseen.submit resolution), after) ∧
      Made before after (.submit resolution) (before.lastsMs (.submit resolution)) := by
  have settled : now.takeTurns = now := takeTurns_none started.ready
  rcases started.stands with ⟨instant, idle, ended⟩ | ⟨-, pending, -⟩
  · refine ⟨now, ?_, ⟨started.ready, idle⟩, started.panel, started.limitMs, ?_, started.calls,
      fun _ later => absurd later not_place_lt_submit, nofun⟩
    · rw [awaitEnding, ended]
      rfl
    · rw [instant, started.nowMs, Nat.add_zero]
  · rw [awaitEnding, pending]
    exact awaitLatest_eq (settled.symm ▸ started)

/-- A new task has its turn in the course of the wait, if it had none before. -/
theorem awaitEnding_of_spawned (quiet : before.Quiet) (resolution : Resolution) :
    ∃ after, awaitEnding (before.spawn resolution).beginWait none
        (before.spawn resolution).beginWait = (.ok (before.foreseen.submit resolution), after) ∧
      Made before after (.submit resolution) (before.lastsMs (.submit resolution)) := by
  unfold beginWait
  split
  · obtain ⟨ready, panel, limitMs, nowMs, calls, stands⟩ :=
      started_takeFirst quiet resolution (roundSize - 1)
    exact awaitEnding_of_started ⟨ready, panel, limitMs, nowMs, calls, stands⟩
  · have round : (before.spawn resolution).takeTurns = (before.spawn resolution).takeFirst 1 := by
      simp [takeTurns, spawn, quiet.ready]
    exact awaitLatest_eq (round ▸ started_takeFirst quiet resolution 0)

/-- A receipt is handed in as the script has it. -/
theorem handIn_eq (quiet : before.Quiet) (resolution : Resolution) :
    ∃ after, handIn resolution none before = (.ok (before.foreseen.submit resolution), after) ∧
      Made before after (.submit resolution) (before.lastsMs (.submit resolution)) := by
  obtain ⟨after, ended, made⟩ := awaitEnding_of_spawned quiet resolution
  refine ⟨after.pay, ?_, ⟨made.quiet.ready, made.quiet.running⟩, made.panel, made.limitMs,
    made.nowMs, made.calls, made.behaviour, made.cache⟩
  have paid : (awaitEnding (before.spawn resolution).beginWait >>= fun ending => do
      modify pay
      return ending) none (before.spawn resolution).beginWait =
        (.ok (before.foreseen.submit resolution), after.pay) := by
    rw [bind_of_ok ended]
    rfl
  rw [← paid, handIn, bind_of_ok (modify_eq _), bind_of_ok beginPass_eq, bind_of_ok get_eq,
    awaitEnding]
  cases (before.spawn resolution).beginWait.latestEnding <;> rfl

end Tasks

section Calls

variable {before : Rehearsal} (quiet : before.Quiet)
include quiet

/-- A call that is made with some behaviour leaves what it may leave, if taking the behaviour and
the effect of the call do. -/
theorem perform_made {behaviour : Behaviour} (lives : behaviour.dies = false) (call : Call)
    {scripts : Scripts} (cache : Cache) {α : Type} (effect : Step (Except Failure α))
    (result : Except Failure α)
    (effects : ∀ waited : Rehearsal, waited.cache = before.cache → waited.panel = before.panel →
      effect none waited = (.ok result, { waited with cache := cache }))
    (sameBehaviour : ∀ later : Call, later.place < call.place →
      scripts.behaviour later = before.scripts.behaviour later)
    (sameCache : call = .policy → cache = before.cache) :
    ∃ after,
      perform behaviour effect none
          { before with calls := call :: before.calls, scripts := scripts } =
        (.ok (behaviour.ending before.limitMs result), after) ∧
      Made before after call (min behaviour.durationMs before.limitMs) := by
  have idle : Quiet { before with calls := call :: before.calls, scripts := scripts } :=
    ⟨quiet.ready, quiet.running⟩
  have waitedEffects (waited : Rehearsal)
      (waits : Waited { before with calls := call :: before.calls, scripts := scripts } waited
        behaviour.durationMs) : effect none waited = (.ok result, { waited with cache := cache }) := by
    obtain ⟨credit, watchful, rfl⟩ := waits
    exact effects _ rfl rfl
  obtain ⟨waited, after, ⟨credit, watchful, rfl⟩, either, performed⟩ :=
    perform_eq (fun waited => { waited with cache := cache }) idle lives waitedEffects
  refine ⟨after, performed, ?_⟩
  rcases either with rfl | rfl
  · exact ⟨⟨quiet.ready, quiet.running⟩, rfl, rfl, rfl, rfl, sameBehaviour, fun _ => rfl⟩
  · exact ⟨⟨quiet.ready, quiet.running⟩, rfl, rfl, rfl, rfl, sameBehaviour, sameCache⟩

/-- The policy is asked for as the script has it. -/
theorem askPolicy_eq (lives : (before.scripts.behaviour .policy).dies = false) :
    ∃ after, askPolicy none before = (.ok before.foreseen.policy, after) ∧
      Made before after .policy (before.lastsMs .policy) := by
  rw [askPolicy, bind_of_ok (modify_eq _), bind_of_ok (takeBehaviour_eq _ _)]
  refine perform_made quiet lives .policy before.cache _
    (documentOr Policy.Decision.decoder (before.scripts.behaviour .policy).document
      (.ofState .allow)) ?effects ?behaviour fun _ => rfl
  case effects =>
    intro waited sameCache _
    exact sameCache ▸ rfl
  case behaviour =>
    rintro (_ | _ | _ | _ | _) later <;> first | rfl | simp [Call.place] at later

/-- The cache is asked as the script has it. -/
theorem askCache_eq (name : Name)
    (lives : (before.scripts.behaviour (.lookup name)).dies = false) :
    ∃ after, askCache name none before = (.ok (before.foreseen.lookup name), after) ∧
      Made before after (.lookup name) (before.lastsMs (.lookup name)) := by
  rw [askCache, bind_of_ok (modify_eq _), bind_of_ok (takeBehaviour_eq _ _)]
  refine perform_made quiet lives (.lookup name) (before.cache.get name).2 _
    (.ok (before.cache.find? name)) ?effects ?behaviour nofun
  case effects =>
    intro waited sameCache _
    exact sameCache ▸ rfl
  case behaviour =>
    rintro (_ | _ | _ | _ | _) later <;> first | rfl | simp [Call.place] at later

/-- The quorum is asked as the script has it. -/
theorem askQuorum_eq (name : Name)
    (lives : (before.scripts.behaviour (.query name)).dies = false) :
    ∃ after, askQuorum name none before = (.ok (before.foreseen.query name), after) ∧
      Made before after (.query name) (before.lastsMs (.query name)) := by
  rw [askQuorum, bind_of_ok (modify_eq _), bind_of_ok (takeBehaviour_eq _ _)]
  refine perform_made quiet lives (.query name) before.cache _
    (documentOr Quorum.Reply.decoder (before.scripts.behaviour (.query name)).document
      (before.panel.reply name)) ?effects ?behaviour nofun
  case effects =>
    intro waited sameCache samePanel
    exact sameCache ▸ samePanel ▸ rfl
  case behaviour =>
    rintro (_ | _ | _ | _ | _) later <;> first | rfl | simp [Call.place] at later

/-- The cache is filled as the script has it. -/
theorem fillCache_eq (name : Name) (answer : Answer)
    (lives : (before.scripts.behaviour (.fill name answer)).dies = false) :
    ∃ after, fillCache name answer none before = (.ok (before.foreseen.fill name answer), after) ∧
      Made before after (.fill name answer) (before.lastsMs (.fill name answer)) := by
  rw [fillCache, bind_of_ok (modify_eq _), bind_of_ok (takeBehaviour_eq _ _)]
  refine perform_made quiet lives (.fill name answer) (before.cache.put name answer) _ (.ok ())
    ?effects ?behaviour nofun
  case effects =>
    intro waited sameCache _
    exact sameCache ▸ rfl
  case behaviour =>
    rintro (_ | _ | _ | _ | _) later <;> first | rfl | simp [Call.place] at later

end Calls

end Rehearsal

end GatedResolver.Resolver
