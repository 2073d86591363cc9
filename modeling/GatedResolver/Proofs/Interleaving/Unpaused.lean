import GatedResolver.Proofs.Deployment.Calls
import GatedResolver.Proofs.Interleaving.Receipts

/-!
# Requests without a pause

What the site of the signer does with a request, and what the resolver does with one when it
signs receipts itself, are runs in which nobody else comes in between. So what is said about
all runs is said about these.
-/

namespace GatedResolver.Filing

open Interleaving (Run)
open Resolver (Call CallEnding Collaborators Stage)

variable {key : Receipt.Key}

/-- A signer that is built without a directory keeps its receipts in memory. -/
theorem signerOf_inMemory {settings : ReceiptSettings} (inMemory : settings.directory.isEmpty)
    (random : Bytes) :
    Components.signerOf settings random =
      signer (Receipt.Secret.ofSettings settings.secret random).key := by
  simp [Components.signerOf, World.ledger, inMemory, signer]

/-- One client acts while all others wait. -/
theorem run_of_act {world other : World} {before after : List Client} {client next : Client}
    (acted : Act key world client other next) :
    Run (Step key) ⟨world, before ++ client :: after⟩ [.acted before.length]
      ⟨other, before ++ next :: after⟩ :=
  .step .refl (.act rfl acted)

/-- A client whose receipt was stored at a location. -/
def Client.given (receipt : Receipt.Signed) (location : String) (client : Client) : Client :=
  { client with
    front := client.front.told ⟨receipt.id, location⟩
    task := some (.stored receipt location) }

/-- The record of a task that goes on is stamped and then stored when it is submitted. -/
theorem run_of_submit {before after : List Client} {client : Client} {record : Json.Value}
    (works : client.Works) (due : client.task = some (.due record)) (world : World) :
    ∃ receipt location stored alone,
      (signer key).submit record world = (.ok ⟨receipt.id, location⟩, stored) ∧
      Run (Step key) ⟨world, before ++ client :: after⟩ alone
        ⟨stored, before ++ client.given receipt location :: after⟩ := by
  refine ⟨_, _, _, _, rfl, (run_of_act (.stamped works due)).trans (run_of_act ?_)⟩
  exact .stored works rfl rfl

/-- The site of the signer answers a body that is refused, and submits the record of any other
one. -/
theorem takeBody_submitRecord {State : Type} (signer : Receipt.Signer State)
    (request : Http.Request) (state : State) :
    Site.takeBody (Site.submitRecord signer) request state =
      match handedIn request.body with
      | .error refusal => (refusal, state)
      | .ok record =>
        match signer.submit record state with
        | (.ok ticket, stored) => (.json 201 ticket.toJson, stored)
        | (.error failure, stored) => (.ofFailure failure, stored) := by
  unfold Site.takeBody handedIn
  split
  · rfl
  · rfl

/-- What is posted to the site of the signer is taken as a record that is handed in. -/
theorem respond_receipts {State : Type} (signer : Receipt.Signer State) {request : Http.Request}
    (posts : request.method = .post) (path : request.target.path = "/receipt") (state : State) :
    (Site.receipts signer).respond request state =
      Site.takeBody (Site.submitRecord signer) request state := by
  obtain ⟨method, ⟨path, query⟩, body⟩ := request
  cases posts
  cases path
  rfl

/-- A record that is handed in without a pause takes the steps of a run. -/
theorem run_of_post (request : Http.Request) (world : World) (clients : List Client) :
    ∃ events task, Run (Step key) ⟨world, clients⟩ events
      ⟨(Site.takeBody (Site.submitRecord (signer key)) request world).2,
        clients ++ [⟨.posting request.body
          (some (Site.takeBody (Site.submitRecord (signer key)) request world).1), task, false⟩]⟩ := by
  have came : Run (Step key) ⟨world, clients⟩ [.came]
      ⟨world, clients ++ [⟨.posting request.body none, none, false⟩]⟩ := .step .refl (.post _)
  rw [takeBody_submitRecord]
  cases taken : handedIn request.body with
  | error refusal => exact ⟨_, _, came.trans (run_of_act (.refused taken))⟩
  | ok record =>
    have took := came.trans (run_of_act (.took taken))
    obtain ⟨receipt, location, stored, alone, submitted, filed⟩ :=
      @run_of_submit key clients [] ⟨.posting request.body none, some (.due record), false⟩ record
        rfl rfl world
    simp only [submitted]
    exact ⟨_, _, took.trans filed⟩

/-- Collaborators of which only the last one has to do with receipts: it submits the record of
a resolution. -/
structure Submits (key : Receipt.Key) (collaborators : Collaborators (StateM World)) : Prop where
  policy : ∀ world, Aside world (collaborators.policy world).2
  lookup : ∀ name world, Aside world (collaborators.lookup name world).2
  query : ∀ name world, Aside world (collaborators.query name world).2
  fill : ∀ name answer world, Aside world (collaborators.fill name answer world).2
  submit : ∀ resolution world, collaborators.submit resolution world =
    (Components.ending (((signer key).submit (recordOf resolution) world).1.map .stored),
      ((signer key).submit (recordOf resolution) world).2)

/-- A call that is made before there is a resolution leaves the receipts alone. -/
theorem Submits.aside {collaborators : Collaborators (StateM World)}
    (submits : Submits key collaborators) (request : Resolver.Request) {stage : Stage}
    (early : 1 < stage.callsLeft) (world : World) :
    Aside world (collaborators.call request stage world).2 := by
  cases stage with
  | policy => exact submits.policy world
  | lookup decision => exact submits.lookup request.name world
  | query decision => exact submits.query request.name world
  | fill decision answer => exact submits.fill request.name answer world
  | submit resolution => exact absurd early (Nat.lt_irrefl 1)
  | finished outcome => cases early

/-- Before there is a resolution there is no task. -/
theorem spawned?_of_early {stage : Stage} (early : 1 < stage.callsLeft) : spawned? stage = none := by
  cases stage with
  | submit resolution => exact absurd early (Nat.lt_irrefl 1)
  | _ => rfl

/-- A call that is made before there is a resolution does not hand one in. -/
theorem honest_of_early {collaborators : Collaborators (StateM World)} {request : Resolver.Request}
    {stage : Stage} {world : World} {ending : CallEnding} (early : 1 < stage.callsLeft)
    (ended : (collaborators.call request stage world).1 = some ending) (task : Option Task) :
    Honest task ending := by
  intro submission handing
  subst handing
  cases stage with
  | submit resolution => exact absurd early (Nat.lt_irrefl 1)
  | _ => cases ended

/-- The task of a request at a stage while nobody comes in between: the one that the stage starts,
or one that is done once the request has finished. -/
structure TaskAt (stage : Stage) (task : Option Task) : Prop where
  started : 0 < stage.callsLeft → task = spawned? stage
  done : stage.callsLeft = 0 → ∀ known ∈ task, ∃ receipt location, known = .stored receipt location

/-- A stage starts the task that a request has at it. -/
theorem taskAt_spawned (stage : Stage) : TaskAt stage (spawned? stage) := by
  refine ⟨fun _ => rfl, fun finished known started => ?_⟩
  obtain ⟨outcome, rfl⟩ := Stage.finished_of_callsLeft finished
  cases started

/-- A step of the resolver takes the steps of a run. -/
theorem run_of_advance {collaborators : Collaborators (StateM World)}
    (submits : Submits key collaborators) (request : Resolver.Request) (stage : Stage)
    (world : World) (clients : List Client) {task : Option Task} (standing : TaskAt stage task) :
    ∃ events taskAfter, Run (Step key)
        ⟨world, clients ++ [⟨.resolving request stage, task, false⟩]⟩ events
        ⟨(Resolver.advance collaborators request stage world).2, clients ++
          [⟨.resolving request (Resolver.advance collaborators request stage world).1.1,
            taskAfter, false⟩]⟩ ∧
      TaskAt (Resolver.advance collaborators request stage world).1.1 taskAfter := by
  by_cases early : 1 < stage.callsLeft
  · obtain ⟨ending, ended, leads, left⟩ :=
      Resolver.advance_of_unfinished collaborators request stage (by omega) world
    obtain ⟨call, due⟩ : ∃ call, stage.call? request = some call := by
      cases stage with
      | finished outcome => cases early
      | _ => exact ⟨_, rfl⟩
    have called : Act key world ⟨.resolving request stage, task, false⟩ world _ :=
      .called due leads (honest_of_early early ended task)
    have aside := submits.aside request early world
    rw [left]
    refine ⟨_, _, (run_of_act called).step (.passed aside), ?_⟩
    rw [standing.started (by omega), spawned?_of_early early, Option.or_none]
    exact taskAt_spawned _
  · cases stage with
    | submit resolution =>
      obtain rfl := standing.started Nat.zero_lt_one
      obtain ⟨receipt, location, stored, alone, submitted, filed⟩ :=
        @run_of_submit key clients [] ⟨.resolving request (.submit resolution),
          some (.due (recordOf resolution)), false⟩ _ trivial rfl world
      have leads : Stage.after? request (.submit resolution)
          (.submit (.replied (.stored ⟨receipt.id, location⟩))) =
            some (.finished (.ok resolution)) := rfl
      have called : Act key stored
          ⟨.resolving request (.submit resolution), some (.stored receipt location), false⟩ stored
          ⟨.resolving request (.finished (.ok resolution)), some (.stored receipt location),
            false⟩ := by
        refine .called rfl leads ?_
        intro submission handing
        cases handing
        exact ⟨receipt, location, rfl, rfl⟩
      have advanced : Resolver.advance collaborators request (.submit resolution) world =
          (Resolver.afterSubmit request resolution (.replied (.stored ⟨receipt.id, location⟩)),
            stored) := by
        change (Resolver.afterSubmit request resolution (collaborators.submit resolution world).1,
          (collaborators.submit resolution world).2) = _
        rw [submits.submit, submitted]
        rfl
      rw [advanced]
      refine ⟨_, _, filed.trans (run_of_act called), nofun, fun _ known stored => ?_⟩
      cases stored
      exact ⟨receipt, location, rfl⟩
    | finished outcome => exact ⟨[], task, .refl, standing⟩
    | _ => exact absurd (by simp [Stage.callsLeft]) early

/-- A request that is resolved without a pause takes the steps of a run, at whose end its task is
done. -/
theorem run_of_resolve {collaborators : Collaborators (StateM World)}
    (submits : Submits key collaborators) {warn : Warning → StateM World Unit}
    (quiet : ∀ warning world, Aside world (warn warning world).2) (request : Resolver.Request)
    (world : World) (clients : List Client) :
    ∃ events task, Run (Step key) ⟨world, clients⟩ events
      ⟨(Resolver.run collaborators warn request world).2, clients ++
        [⟨.resolving request (.finished (Resolver.run collaborators warn request world).1),
          task, false⟩]⟩ ∧
      ∀ known ∈ task, ∃ receipt location, known = .stored receipt location := by
  let Reached (stage : Stage) (current : World) : Prop := ∃ events task,
    Run (Step key) ⟨world, clients⟩ events
      ⟨current, clients ++ [⟨.resolving request stage, task, false⟩]⟩ ∧ TaskAt stage task
  have began : Reached .policy world :=
    ⟨_, none, .step .refl (.resolve request), taskAt_spawned .policy⟩
  have stepped : ∀ stage current, Reached stage current →
      Reached (Resolver.advance collaborators request stage current).1.1
        (Resolver.advance collaborators request stage current).2 := by
    rintro stage current ⟨events, task, run, standing⟩
    obtain ⟨later, taskAfter, advanced, standingAfter⟩ :=
      run_of_advance submits request stage current clients standing
    exact ⟨_, taskAfter, run.trans advanced, standingAfter⟩
  have warned : ∀ stage warning current, Reached stage current →
      Reached stage (warn warning current).2 := by
    rintro stage warning current ⟨events, task, run, standing⟩
    exact ⟨_, task, run.step (.passed (quiet warning current)), standing⟩
  obtain ⟨events, task, run, standing⟩ :=
    Resolver.run_preserves collaborators warn request Reached stepped warned world began
  exact ⟨events, task, run, standing.done rfl⟩

/-- A resolver that is wired without the address of a receipt service submits its resolutions to
the signer of its process. -/
theorem submits_of_wiring {components : Components} {settings : ResolverSettings}
    {transport : Components.Transport} {collaborators : Collaborators (StateM World)}
    (wired : components.collaborators settings transport = .ok collaborators)
    (inProcess : settings.receiptUrl = none) (signing : components.signer = some (signer key))
    (apart : ∀ message world, Aside world (transport message world).2) :
    Submits key collaborators := by
  have still : ∀ world, Aside world world := fun world => ⟨rfl, rfl, rfl⟩
  obtain ⟨submit, submits, rfl⟩ := Components.submitCall_of_wired wired
  simp only [Components.submitCall, inProcess, Components.requireSigner, signing] at submits
  cases submits
  constructor
  case policy => exact Components.policyCall_keeps still apart
  case lookup => exact Components.lookupCall_keeps apart fun name world => ⟨rfl, rfl, rfl⟩
  case query => exact Components.queryCall_keeps still apart
  case fill => exact Components.fillCall_keeps apart fun name answer world => ⟨rfl, rfl, rfl⟩
  case submit => exact fun resolution world => rfl

end GatedResolver.Filing
