import GatedResolver.Cache
import GatedResolver.Quorum.Panel
import GatedResolver.Resolver.Script

/-!
# Rehearsals

A rehearsal runs requests one after the other against collaborators that follow scripts, on
a clock that moves only when someone waits. A receipt is handed in by a task of its own,
which goes on when its request is gone.

Requests and tasks take turns. A task that is ready goes on only when a request has to wait,
and tasks go on in the order in which they became ready. Whoever waits outside of the tasks
comes first when its time is up: a task that is due at the same time is then only ready.

Requests cannot keep the tasks from their turns for ever. Each wait that is over costs a
credit, be it as short as it may. Whoever has no credit left when a wait begins makes room
for one round of tasks first. A pause, whether for that or for a wait that takes time,
brings all credits back.
-/

namespace GatedResolver.Resolver

/-- A task that hands in a receipt. Tasks are numbered from one on. -/
structure Task where
  number : Nat
  resolution : Resolution

/-- A task that is under way: it is settled when and how it ends. -/
structure RunningTask where
  task : Task
  dueMs : Nat
  ending : Ending Submission

/-- What a task that is ready has to do. -/
inductive Turn where
  | start (task : Task)
  | finish (run : RunningTask)

/-- The task that has a turn. -/
def Turn.task : Turn → Task
  | .start task => task
  | .finish run => run.task

/-- How many waits may be over between two pauses. -/
def fullCredit : Nat := 128

/-- How many tasks have a turn in one round. After each round it is seen whether there is
something to do outside of the tasks. -/
def roundSize : Nat := 61

/-- A rehearsal: the clock, what the scripts have left, the tasks, what the collaborators
hold, and what was seen since the last request ended. -/
structure Rehearsal where
  panel : Quorum.Panel
  limitMs : Nat
  scripts : Scripts
  nowMs : Nat := 0
  cache : Cache := .empty
  /-- The receipts that are kept, the latest first. -/
  receipts : List Resolution := []
  /-- How many tasks there have been. -/
  taskCount : Nat := 0
  /-- How the latest task ended, if it did. -/
  latestEnding : Option (Ending Submission) := none
  /-- The turns that are due, in their order. -/
  ready : List Turn := []
  /-- The tasks that wait, in the order in which they are due. -/
  running : List RunningTask := []
  /-- The calls that were made, the latest first. -/
  calls : List Call := []
  /-- The warnings that were given, the latest first. -/
  warnings : List Warning := []
  /-- How many waits may still be over before the next pause. -/
  credit : Nat := fullCredit
  /-- Whether there was credit when the present request began or went on after a pause. -/
  watchful : Bool := true

/-- Put a task behind those that are due before it or with it. -/
def insertRunning (run : RunningTask) : List RunningTask → List RunningTask
  | [] => [run]
  | other :: rest =>
    if run.dueMs < other.dueMs then run :: other :: rest
    else other :: insertRunning run rest

namespace Rehearsal

/-- Note a call. -/
def note (rehearsal : Rehearsal) (call : Call) : Rehearsal :=
  { rehearsal with calls := call :: rehearsal.calls }

/-- Make a new task ready. -/
def spawn (rehearsal : Rehearsal) (resolution : Resolution) : Rehearsal :=
  let number := rehearsal.taskCount + 1
  { rehearsal with
    taskCount := number
    latestEnding := none
    ready := rehearsal.ready ++ [.start ⟨number, resolution⟩] }

/-- End a task. -/
def finish (rehearsal : Rehearsal) (run : RunningTask) : Rehearsal :=
  { rehearsal with
    receipts :=
      match run.ending with
      | .replied (.stored _) => run.task.resolution :: rehearsal.receipts
      | _ => rehearsal.receipts
    latestEnding :=
      if run.task.number = rehearsal.taskCount then some run.ending
      else rehearsal.latestEnding }

/-- Start a task: it makes its call, and waits if that takes time. -/
def start (rehearsal : Rehearsal) (task : Task) : Rehearsal :=
  let noted := rehearsal.note (.submit task.resolution)
  let (behaviour, rest) := nextBehaviour noted.scripts.submit
  let begun := { noted with scripts := { noted.scripts with submit := rest } }
  let waitMs := min behaviour.durationMs begun.limitMs
  let run : RunningTask := ⟨task, begun.nowMs + waitMs, behaviour.submission begun.limitMs⟩
  if waitMs = 0 then begun.finish run
  else { begun with running := insertRunning run begun.running }

/-- Carry out a turn. -/
def take (rehearsal : Rehearsal) : Turn → Rehearsal
  | .start task => rehearsal.start task
  | .finish run => rehearsal.finish run

/-- Carry out the first `count` of the turns that are due. -/
def takeFirst (rehearsal : Rehearsal) (count : Nat) : Rehearsal :=
  (rehearsal.ready.take count).foldl take
    { rehearsal with ready := rehearsal.ready.drop count }

/-- Carry out all turns that are due. -/
def takeTurns (rehearsal : Rehearsal) : Rehearsal :=
  rehearsal.takeFirst rehearsal.ready.length

/-- No turn takes time. -/
@[simp] theorem nowMs_take (rehearsal : Rehearsal) (turn : Turn) :
    (rehearsal.take turn).nowMs = rehearsal.nowMs := by
  cases turn with
  | start task =>
    simp only [take, start]
    split <;> rfl
  | finish run => rfl

/-- Turns take no time, however many there are. -/
@[simp] theorem nowMs_takeFirst (rehearsal : Rehearsal) (count : Nat) :
    (rehearsal.takeFirst count).nowMs = rehearsal.nowMs := by
  unfold takeFirst
  generalize rehearsal.ready.take count = turns
  generalize rest : rehearsal.ready.drop count = later
  clear rest
  have all (turns : List Turn) (start : Rehearsal) :
      (turns.foldl take start).nowMs = start.nowMs := by
    induction turns generalizing start with
    | nil => rfl
    | cons turn turns inductionHypothesis =>
      rw [List.foldl_cons, inductionHypothesis, nowMs_take]
  rw [all]

/-- Pay for a wait that is over. -/
def pay (rehearsal : Rehearsal) : Rehearsal :=
  { rehearsal with credit := rehearsal.credit - 1 }

/-- Have all credits again, after a pause. -/
def refresh (rehearsal : Rehearsal) : Rehearsal :=
  { rehearsal with credit := fullCredit, watchful := true }

/-- Make room for one round of tasks. -/
def makeRoom (rehearsal : Rehearsal) : Rehearsal :=
  (rehearsal.takeFirst roundSize).refresh

/-- Begin a wait: without credit there has to be room for tasks first. -/
def beginWait (rehearsal : Rehearsal) : Rehearsal :=
  if rehearsal.credit = 0 then rehearsal.makeRoom else rehearsal

/-- Whoever begins a wait has credit for it. -/
theorem credit_beginWait (rehearsal : Rehearsal) : 0 < rehearsal.beginWait.credit := by
  unfold beginWait
  split
  · exact Nat.zero_lt_succ 127
  · next some => exact Nat.pos_of_ne_zero some

/-- To begin a wait takes no time. -/
@[simp] theorem nowMs_beginWait (rehearsal : Rehearsal) :
    rehearsal.beginWait.nowMs = rehearsal.nowMs := by
  unfold beginWait
  split
  · exact nowMs_takeFirst ..
  · rfl

/-- End those of the waiting tasks `running` that are due before a time, each at its own. -/
def finishBefore (timeMs : Nat) : (running : List RunningTask) → Rehearsal → Rehearsal
  | [], rehearsal => { rehearsal with running := [] }
  | run :: later, rehearsal =>
    if run.dueMs < timeMs then
      finishBefore timeMs later ({ rehearsal with nowMs := run.dueMs }.finish run)
    else
      { rehearsal with running := run :: later }

/-- Wait until a time. Who need not wait at all gives no task a turn. -/
def waitUntil (rehearsal : Rehearsal) (timeMs : Nat) : Rehearsal :=
  if timeMs ≤ rehearsal.nowMs then rehearsal
  else
    let busy := rehearsal.takeTurns
    let waited := finishBefore timeMs busy.running busy
    { waited.refresh with
      nowMs := timeMs
      ready := (waited.running.takeWhile (·.dueMs ≤ timeMs)).map .finish
      running := waited.running.dropWhile (·.dueMs ≤ timeMs) }

/-- A wait ends at the time that was waited for, unless that is over already. -/
theorem nowMs_waitUntil (rehearsal : Rehearsal) (timeMs : Nat) :
    (rehearsal.waitUntil timeMs).nowMs = max rehearsal.nowMs timeMs := by
  unfold waitUntil
  split
  · next late => exact (Nat.max_eq_left late).symm
  · next early => exact (Nat.max_eq_right (Nat.le_of_lt (Nat.lt_of_not_le early))).symm

/-- Let time pass, but no more of it than the longest wait. -/
def wait (rehearsal : Rehearsal) (durationMs : Nat) : Rehearsal :=
  (rehearsal.beginWait.waitUntil (rehearsal.nowMs + min durationMs longestWaitMs)).pay

/-- A wait takes as long as it says, up to the longest wait. -/
theorem nowMs_wait (rehearsal : Rehearsal) (durationMs : Nat) :
    (rehearsal.wait durationMs).nowMs =
      rehearsal.nowMs + min durationMs longestWaitMs := by
  simp [wait, pay, nowMs_waitUntil]

/-- Wait for a task that is under way. The tasks that are due before it end each at its own
time; those that are due with it end in their order, in as many rounds as it takes to reach
the task. -/
def waitFor (rehearsal : Rehearsal) (run : RunningTask) : Rehearsal :=
  let waited := rehearsal.waitUntil run.dueMs
  let place := waited.ready.findIdx (·.task.number = run.task.number)
  (waited.takeFirst ((place / roundSize + 1) * roundSize)).refresh

end Rehearsal

end GatedResolver.Resolver
