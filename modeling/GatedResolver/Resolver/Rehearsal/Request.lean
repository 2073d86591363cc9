import GatedResolver.Resolver.Rehearsal
import GatedResolver.Resolver.Run

/-!
# Requests of a rehearsal

A request of a rehearsal makes its calls as the scripts have it. A call that ends exactly at
the time limit ends in time, and so does one that ends when the patience of the client does;
without patience left a request is dropped as soon as it would have to wait, and the tasks
that are ready get no turn before that. Only a request that had no credit from its beginning
makes room for tasks before its patience is looked at. A collaborator that dies takes the
request with it, unless it dies in a task.
-/

namespace GatedResolver.Resolver

/-- Why a request breaks off. -/
inductive Interruption where
  /-- The client has lost patience. -/
  | impatience
  /-- A collaborator died. -/
  | death
deriving DecidableEq

namespace Rehearsal

/-- A step of a request, which knows until when the client has patience and may break
off. -/
abbrev Step := ReaderT (Option Nat) (ExceptT Interruption (StateM Rehearsal))

/-- Note a warning. -/
def warn (warning : Warning) : Step Unit :=
  modify fun rehearsal => { rehearsal with warnings := warning :: rehearsal.warnings }

/-- Whether the patience of the client is over. -/
def patienceIsOver : Step Bool := do
  let rehearsal ← get
  return (← read).any (· ≤ rehearsal.nowMs)

/-- Begin a wait inside of a request. Where the last credit went in the course of the
request, patience comes before the tasks. -/
def beginPass : Step Unit := do
  let rehearsal ← get
  if rehearsal.credit = 0 && rehearsal.watchful && (← patienceIsOver) then throw .impatience
  modify beginWait

/-- Wait inside of a request. -/
def pass (durationMs : Nat) : Step Unit := do
  beginPass
  let untilMs := (← get).nowMs + durationMs
  let patienceMs := (← read).getD untilMs
  modify fun rehearsal => (rehearsal.waitUntil (min untilMs patienceMs)).pay
  if patienceMs < untilMs then throw .impatience

/-- What a collaborator does after its wait. -/
def act {α : Type} (behaviour : Behaviour) (effect : Step (Except Failure α)) :
    Step (Ending α) := do
  if behaviour.dies then throw .death
  match behaviour.failure with
  | some failure => return .failed failure
  | none =>
    match ← effect with
    | .ok value => return .replied value
    | .error failure => return .failed failure

/-- Carry out a behaviour: wait as long as it says, but not longer than the limit, and let
the effect happen only if it comes in time. -/
def perform {α : Type} (behaviour : Behaviour) (effect : Step (Except Failure α)) :
    Step (Ending α) := do
  match behaviour.waitMs? with
  | none => act behaviour effect
  | some durationMs =>
    let limitMs := (← get).limitMs
    pass (min durationMs limitMs)
    if limitMs < durationMs then return .overran else act behaviour effect

/-- Take the next behaviour of one of the scripts. -/
def takeBehaviour (select : Scripts → Script) (replace : Scripts → Script → Scripts) :
    Step Behaviour := do
  let rehearsal ← get
  let (behaviour, rest) := nextBehaviour (select rehearsal.scripts)
  set { rehearsal with scripts := replace rehearsal.scripts rest }
  return behaviour

/-- Read the document of a behaviour, or take what stands in for it. -/
def documentOr {α : Type} (decoder : Json.Decoder α) (document : Option Bytes) (default : α) :
    Except Failure α :=
  match document with
  | none => .ok default
  | some text => (decoder.decode text).mapError fun fault => .serialization fault.message

/-- Ask for the policy. -/
def askPolicy : Step (Ending Policy.Decision) := do
  modify (·.note .policy)
  let behaviour ←
    takeBehaviour Scripts.policy fun scripts rest => { scripts with policy := rest }
  perform behaviour
    (return documentOr Policy.Decision.decoder behaviour.document (.ofState .allow))

/-- Ask the cache. -/
def askCache (name : Name) : Step (Ending (Option Answer)) := do
  modify (·.note (.lookup name))
  let behaviour ←
    takeBehaviour Scripts.lookup fun scripts rest => { scripts with lookup := rest }
  perform behaviour do
    let rehearsal ← get
    let (found, cache) := rehearsal.cache.get name
    set { rehearsal with cache := cache }
    return .ok found

/-- Ask the quorum. -/
def askQuorum (name : Name) : Step (Ending Quorum.Reply) := do
  modify (·.note (.query name))
  let behaviour ←
    takeBehaviour Scripts.query fun scripts rest => { scripts with query := rest }
  perform behaviour do
    let rehearsal ← get
    return documentOr Quorum.Reply.decoder behaviour.document (rehearsal.panel.reply name)

/-- Fill the cache. -/
def fillCache (name : Name) (answer : Answer) : Step (Ending Unit) := do
  modify (·.note (.fill name answer))
  let behaviour ←
    takeBehaviour Scripts.fill fun scripts rest => { scripts with fill := rest }
  perform behaviour do
    modify fun rehearsal => { rehearsal with cache := rehearsal.cache.put name answer }
    return .ok ()

/-- Drop the request if the patience of the client is over. -/
def heedPatience : Step Unit := do
  if ← patienceIsOver then
    modify pay
    throw .impatience

/-- Wait for the latest task, which is under way. A client whose patience ends when the task
is due comes before it, so that the request is dropped. -/
def awaitTask (run : RunningTask) : Step Unit := do
  match ← read with
  | some patienceMs =>
    if patienceMs ≤ run.dueMs then modify (·.waitUntil patienceMs)
    heedPatience
  | none => pure ()
  modify (·.waitFor run)

/-- Let the tasks go on until the latest one has ended, and give its ending. It is the last
of those that are ready, so that all of them have their turns first. -/
def awaitLatest : Step (Ending Submission) := do
  heedPatience
  modify fun rehearsal => rehearsal.takeTurns.refresh
  let busy ← get
  match busy.running.find? (·.task.number = busy.taskCount) with
  | some run =>
    awaitTask run
    return run.ending
  | none => return busy.latestEnding.getD .overran

/-- Hand in a receipt: make a task of it and wait for it, unless it has ended by the time
that the wait begins. -/
def handIn (resolution : Resolution) : Step (Ending Submission) := do
  modify (·.spawn resolution)
  beginPass
  let ending ← match (← get).latestEnding with
    | some ending => pure ending
    | none => awaitLatest
  modify pay
  return ending

/-- The collaborators of a rehearsal. -/
def collaborators : Collaborators Step where
  policy := askPolicy
  lookup := askCache
  query := askQuorum
  fill := fillCache
  submit := handIn

/-- How a request of a rehearsal ended. -/
inductive Result where
  | finished (outcome : Outcome)
  | dropped
  | died

/-- What is told about a request when it has ended: how that was, how long it took, and the
calls and warnings since the request before it ended. -/
structure Account where
  result : Result
  elapsedMs : Nat
  calls : List Call
  warnings : List Warning

/-- The result of a request that ran to its end or broke off. -/
def resultOf : Except Interruption Outcome → Result
  | .ok outcome => .finished outcome
  | .error .impatience => .dropped
  | .error .death => .died

/-- Run one request. -/
def resolve (rehearsal : Rehearsal) (name : Name) (patienceMs : Option Nat) :
    Account × Rehearsal :=
  let request : Request := ⟨name, rehearsal.limitMs⟩
  let begun := { rehearsal with watchful := decide (0 < rehearsal.credit) }
  let (result, after) :=
    (run collaborators warn request).run (patienceMs.map (rehearsal.nowMs + ·)) |>.run begun
  (⟨resultOf result, after.nowMs - rehearsal.nowMs, after.calls.reverse,
      after.warnings.reverse⟩,
    { after with calls := [], warnings := [] })

end Rehearsal

end GatedResolver.Resolver
