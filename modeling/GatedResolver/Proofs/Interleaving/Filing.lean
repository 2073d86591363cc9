import GatedResolver.Deployment.Wiring
import GatedResolver.Proofs.Interleaving.Run
import GatedResolver.Proofs.Resolver.Stepwise
import GatedResolver.Site.Receipts

/-!
# Filing receipts

Requests that are resolved and records that clients hand in themselves are signed by one
signer, which keeps its receipts in memory. The task that files the resolution of a request
works on its own: it goes on when the client of the request drops it. A client that hands in a
record itself takes its task with it.

A task stamps its record, which draws the next random bits, and stores it later; between the
two anyone else may act. The invariant `Consistent` says what the tasks have to do with the
stages of their clients, and that the receipts in memory are those of the tasks that are done.
-/

namespace GatedResolver.Filing

open Interleaving (Run)
open Resolver (Call CallEnding Collaborators Stage)

/-- The signer of a process that keeps receipts in memory. -/
def signer (key : Receipt.Key) : Receipt.Signer World :=
  ⟨key, World.memoryLedger, World.stamp⟩

/-- The record that is filed for a resolution. -/
def recordOf (resolution : Resolution) : Json.Value :=
  Json.sortKeys resolution.toJson

/-- The record that a client hands in, or the response to a body that is refused. -/
def handedIn (body : Bytes) : Except Http.Response Json.Value :=
  if Site.bodyLimit < body.length then
    .error (.text 413 "Failed to buffer the request body: length limit exceeded")
  else Site.submittedRecord body

/-- How far the filing of a record has come. -/
inductive Task where
  /-- The record waits for its stamp. -/
  | due (record : Json.Value)
  /-- The record is stamped and signed. -/
  | stamped (receipt : Receipt.Signed)
  /-- The receipt is in the ledger, at a location. -/
  | stored (receipt : Receipt.Signed) (location : String)

/-- The record that a task is about. -/
def Task.record : Task → Json.Value
  | .due record => record
  | .stamped receipt => receipt.payload.record
  | .stored receipt _ => receipt.payload.record

/-- The receipt that a task has made, stored or not. -/
def Task.receipt? : Task → Option Receipt.Signed
  | .due _ => none
  | .stamped receipt => some receipt
  | .stored receipt _ => some receipt

/-- The receipt that a task has stored. -/
def Task.filed? : Task → Option Receipt.Signed
  | .stored receipt _ => some receipt
  | _ => none

/-- What a client waits for. -/
inductive Front where
  /-- A name is resolved. -/
  | resolving (request : Resolver.Request) (stage : Stage)
  /-- A body with a record is handed in, and there may be a response. -/
  | posting (body : Bytes) (response : Option Http.Response)

/-- A client has not got what it waits for. -/
def Front.Waits : Front → Prop
  | .resolving _ stage => 0 < stage.callsLeft
  | .posting _ response => response = none

/-- The ticket of a stored receipt is the response to a client that handed in the record. -/
def Front.told (ticket : Receipt.Ticket) : Front → Front
  | .resolving request stage => .resolving request stage
  | .posting body _ => .posting body (some (.json 201 ticket.toJson))

/-- A client, the task that files its record, and whether the client has gone. -/
structure Client where
  front : Front
  task : Option Task
  dropped : Bool

/-- The task of a client goes on: that of a request always, any other one with its client. -/
def Client.Works (client : Client) : Prop :=
  match client.front with
  | .resolving _ _ => True
  | .posting _ _ => client.dropped = false

/-- The task that a request starts when it has a resolution. -/
def spawned? : Stage → Option Task
  | .submit resolution => some (.due (recordOf resolution))
  | _ => none

/-- Handing a resolution in ends when its receipt is stored, with the ticket. No task dies or is
cut off. All other calls end in any way. -/
def Honest (task : Option Task) (ending : CallEnding) : Prop :=
  ∀ submission, ending = .submit submission → ∃ receipt location,
    task = some (.stored receipt location) ∧
      submission = .replied (.stored ⟨receipt.id, location⟩)

/-- One step of one client or of its task. -/
inductive Act (key : Receipt.Key) (world : World) : Client → World → Client → Prop where
  | called {request : Resolver.Request} {stage next : Stage} {call : Call} {ending : CallEnding}
      {task : Option Task} (due : stage.call? request = some call)
      (leads : stage.after? request ending = some next) (honest : Honest task ending) :
      Act key world ⟨.resolving request stage, task, false⟩ world
        ⟨.resolving request next, (spawned? next).or task, false⟩
  | took {body : Bytes} {record : Json.Value} (taken : handedIn body = .ok record) :
      Act key world ⟨.posting body none, none, false⟩ world
        ⟨.posting body none, some (.due record), false⟩
  | refused {body : Bytes} {refusal : Http.Response} (taken : handedIn body = .error refusal) :
      Act key world ⟨.posting body none, none, false⟩ world
        ⟨.posting body (some refusal), none, false⟩
  | stamped {client : Client} {record : Json.Value} (works : client.Works)
      (due : client.task = some (.due record)) :
      Act key world client ((signer key).stamp world).2
        { client with
          task := some (.stamped ((signer key).receiptFor ((signer key).stamp world).1 record)) }
  | stored {client : Client} {receipt : Receipt.Signed} {location : String} {kept : World}
      (works : client.Works) (ready : client.task = some (.stamped receipt))
      (put : (signer key).ledger.store world receipt = (.ok location, kept)) :
      Act key world client kept
        { client with
          front := client.front.told ⟨receipt.id, location⟩
          task := some (.stored receipt location) }
  | left {front : Front} {task : Option Task} (waits : front.Waits) :
      Act key world ⟨front, task, false⟩ world ⟨front, task, true⟩

/-- The state of the process and its clients, in the order in which they came. -/
structure Scene where
  world : World
  clients : List Client

/-- The receipts and the random bits are left alone. -/
structure Aside (world other : World) : Prop where
  memory : other.memory = world.memory
  entropy : other.entropy = world.entropy
  drawn : other.drawn = world.drawn

/-- What happens to a scene. -/
inductive Event where
  /-- A client comes. -/
  | came
  /-- A client or its task takes a step. -/
  | acted (index : Nat)
  /-- Something else in the process changes. -/
  | passed

/-- One step of anyone. -/
inductive Step (key : Receipt.Key) (scene : Scene) : Event → Scene → Prop where
  | resolve (request : Resolver.Request) :
      Step key scene .came
        { scene with clients := scene.clients ++ [⟨.resolving request .policy, none, false⟩] }
  | post (body : Bytes) :
      Step key scene .came
        { scene with clients := scene.clients ++ [⟨.posting body none, none, false⟩] }
  | act {before after : List Client} {client next : Client} {world : World}
      (here : scene.clients = before ++ client :: after)
      (acted : Act key scene.world client world next) :
      Step key scene (.acted before.length) ⟨world, before ++ next :: after⟩
  | passed {world : World} (aside : Aside scene.world world) :
      Step key scene .passed { scene with world := world }

/-- The receipt that the task of a client has made. -/
def Client.receipt? (client : Client) : Option Receipt.Signed :=
  client.task.bind Task.receipt?

/-- The receipt that the task of a client has stored. -/
def Client.filed? (client : Client) : Option Receipt.Signed :=
  client.task.bind Task.filed?

/-- The entry of the ledger that a client has. -/
def Client.filedAs? (client : Client) : Option (String × Receipt.Signed) :=
  client.filed?.map fun receipt => (receipt.id, receipt)

/-- The record that a client is to have a receipt for: the resolution of a request that came to
hand one in, and the record of a client that was told that its record is stored. -/
def Client.owed? (client : Client) : Option Json.Value :=
  match client.front with
  | .resolving _ (.submit resolution) => some (recordOf resolution)
  | .resolving _ (.finished (.ok resolution)) => some (recordOf resolution)
  | .posting body (some response) =>
    if response.status = 201 then (handedIn body).toOption else none
  | _ => none

/-- The task of a request, if there is one, is done. -/
def Client.Settled (client : Client) : Prop :=
  match client.front with
  | .resolving _ _ => ∀ task ∈ client.task, ∃ receipt location, task = .stored receipt location
  | .posting _ _ => True

/-- No random bits that were drawn give the same id twice. -/
def Fresh (world : World) : Prop :=
  ∀ first second, first < second → second < world.drawn →
    Receipt.idOf (world.entropy first) ≠ Receipt.idOf (world.entropy second)

/-- What the task of a client has to do with what the client waits for. -/
def Client.Sound (client : Client) : Prop :=
  match client.front with
  | .resolving _ (.submit resolution) =>
    ∃ task, client.task = some task ∧ task.record = recordOf resolution
  | .resolving _ (.finished (.ok resolution)) =>
    ∃ receipt location, client.task = some (.stored receipt location) ∧
      receipt.payload.record = recordOf resolution
  | .resolving _ _ => client.task = none
  | .posting body none =>
    ∀ task ∈ client.task, task.filed? = none ∧ handedIn body = .ok task.record
  | .posting body (some response) =>
    (client.task = none ∧ handedIn body = .error response) ∨
      ∃ receipt location, client.task = some (.stored receipt location) ∧
        handedIn body = .ok receipt.payload.record ∧
        response = .json 201 (Receipt.Ticket.toJson ⟨receipt.id, location⟩)

section Clients

variable {key : Receipt.Key} {world other : World} {client next : Client}

/-- A refused body is not answered with the status of a stored record. -/
theorem status_of_refused {body : Bytes} {refusal : Http.Response}
    (refused : handedIn body = .error refusal) : refusal.status ≠ 201 := by
  unfold handedIn Site.submittedRecord at refused
  split at refused
  · cases refused
    decide
  · split at refused
    · cases refused
      decide
    · split at refused <;> cases refused <;> exact (by decide : 400 ≠ 201)

/-- A request that makes a call before it has a resolution has no task yet, and starts one when
it gets a resolution. -/
theorem Client.Sound.called {request : Resolver.Request} {stage following : Stage} {call : Call}
    {ending : CallEnding} {task : Option Task}
    (sound : Client.Sound ⟨.resolving request stage, task, false⟩)
    (due : stage.call? request = some call)
    (leads : stage.after? request ending = some following) (honest : Honest task ending) :
    Client.Sound ⟨.resolving request following, (spawned? following).or task, false⟩ := by
  cases stage with
  | policy =>
    cases ending <;> cases leads
    rw [Resolver.afterPolicy_fst]
    exact sound
  | lookup decision =>
    cases ending <;> cases leads
    rw [Resolver.afterLookup_fst]
    split
    · exact ⟨_, rfl, rfl⟩
    · exact sound
  | query decision =>
    cases ending <;> cases leads
    rw [Resolver.afterQuery_fst]
    split <;> exact sound
  | fill decision answer =>
    cases ending <;> cases leads
    rw [Resolver.afterFill_fst]
    exact ⟨_, rfl, rfl⟩
  | submit resolution =>
    cases ending <;> cases leads
    rw [Resolver.afterSubmit_fst]
    obtain ⟨known, rfl, record⟩ := sound
    obtain ⟨receipt, location, stored, -⟩ := honest _ rfl
    cases stored
    exact ⟨receipt, location, rfl, record⟩
  | finished outcome => cases due

/-- A task that is not done belongs to a client that waits: for a resolution to be filed, or
for the response to a record. -/
theorem Client.Sound.unfinished (sound : client.Sound) {task : Task}
    (started : client.task = some task) (unfiled : task.filed? = none) :
    (∃ request resolution, client.front = .resolving request (.submit resolution) ∧
        task.record = recordOf resolution) ∨
      ∃ body, client.front = .posting body none ∧ handedIn body = .ok task.record := by
  obtain ⟨front, own, dropped⟩ := client
  cases started
  unfold Sound at sound
  split at sound
  · next request resolution asks =>
    obtain ⟨known, same, record⟩ := sound
    cases same
    exact .inl ⟨request, resolution, asks, record⟩
  · obtain ⟨receipt, location, stored, -⟩ := sound
    cases stored
    cases unfiled
  · cases sound
  · next body asks => exact .inr ⟨body, asks, (sound task rfl).2⟩
  · rcases sound with ⟨idle, -⟩ | ⟨receipt, location, stored, -⟩
    · cases idle
    · cases stored
      cases unfiled

/-- A step of a client keeps to what its task has to do with it. -/
theorem Act.sound (act : Act key world client other next) (sound : client.Sound) : next.Sound := by
  cases act with
  | called due leads honest => exact sound.called due leads honest
  | took taken =>
    rintro task started
    cases started
    exact ⟨rfl, taken⟩
  | refused taken => exact .inl ⟨rfl, taken⟩
  | left waits => exact sound
  | stamped works due =>
    rcases sound.unfinished due rfl with ⟨request, resolution, asks, record⟩ | ⟨body, asks, taken⟩
    · simp only [Client.Sound, asks]
      exact ⟨_, rfl, record⟩
    · simp only [Client.Sound, asks]
      rintro task started
      cases started
      exact ⟨rfl, taken⟩
  | stored works ready put =>
    rcases sound.unfinished ready rfl with ⟨request, resolution, asks, record⟩ | ⟨body, asks, taken⟩
    · simp only [Client.Sound, asks, Front.told]
      exact ⟨_, rfl, record⟩
    · simp only [Client.Sound, asks, Front.told]
      exact .inr ⟨_, _, rfl, taken, rfl⟩

/-- What a step does to the receipts: nothing, or a fresh receipt is made, or one that was made
is stored. -/
inductive Effect (key : Receipt.Key) (world : World) (client : Client) (other : World)
    (next : Client) : Prop where
  | quiet (same : other = world) (made : next.receipt? = client.receipt?)
      (filed : next.filed? = client.filed?)
  | stamped (record : Json.Value) (drawn : other = ((signer key).stamp world).2)
      (unmade : client.receipt? = none) (unfiled : client.filed? = none)
      (made : next.receipt? = some ((signer key).receiptFor ((signer key).stamp world).1 record))
      (idle : next.filed? = none)
  | stored (receipt : Receipt.Signed)
      (kept : other = { world with memory := world.memory.set receipt.id receipt })
      (ready : client.receipt? = some receipt) (made : next.receipt? = some receipt)
      (unfiled : client.filed? = none) (filed : next.filed? = some receipt)

@[simp] theorem receipt?_spawned (stage : Stage) : (spawned? stage).bind Task.receipt? = none := by
  cases stage <;> rfl

@[simp] theorem filed?_spawned (stage : Stage) : (spawned? stage).bind Task.filed? = none := by
  cases stage <;> rfl

/-- Every step has one of these effects. -/
theorem Act.effect (act : Act key world client other next) (sound : client.Sound) :
    Effect key world client other next := by
  cases act with
  | @called request stage following call ending task due leads honest =>
    cases stage with
    | submit resolution =>
      cases ending <;> cases leads
      rw [Resolver.afterSubmit_fst]
      exact .quiet rfl rfl rfl
    | finished outcome => cases due
    | policy | lookup _ | query _ | fill _ _ =>
      obtain rfl : task = none := sound
      refine .quiet rfl ?_ ?_
      · simp [Client.receipt?]
      · simp [Client.filed?]
  | took taken => exact .quiet rfl rfl rfl
  | refused taken => exact .quiet rfl rfl rfl
  | left waits => exact .quiet rfl rfl rfl
  | @stamped client record works due =>
    exact .stamped record rfl (by simp [Client.receipt?, due, Task.receipt?])
      (by simp [Client.filed?, due, Task.filed?]) rfl rfl
  | @stored client receipt location kept works ready put =>
    cases put
    exact .stored receipt rfl (by simp [Client.receipt?, ready, Task.receipt?]) rfl
      (by simp [Client.filed?, ready, Task.filed?]) rfl

end Clients

end GatedResolver.Filing
