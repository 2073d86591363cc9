import GatedResolver.Proofs.Deployment.Built
import GatedResolver.Proofs.Interleaving.Unpaused

/-!
# The ledger that requests share

Every receipt that is owed is in the ledger, once, and no other one is, in whatever order requests
and their tasks came to act (`ledger_of_run`). What a signer, its site and a resolver do in one go
are such runs, so this is said of the receipts that they make: in a process that was built without a
directory for receipts they are wired to this ledger (`InMemory`).
-/

namespace GatedResolver.Filing

open Interleaving (Run)
open Resolver (Stage)

/-- Components that keep receipts in memory and sign them with a key: they were built from settings
without a directory for receipts, for services of which one signs receipts. -/
structure InMemory (key : Receipt.Key) (settings : Settings) (components : Components) : Prop where
  built : ∃ services random, Components.ofSettings settings services random = .ok components ∧
    Components.needSigner settings services = true ∧
    (Receipt.Secret.ofSettings settings.receipt.secret random).key = key
  directory : settings.receipt.directory.isEmpty = true

section Wiring

variable {key : Receipt.Key} {settings : Settings} {components : Components}
  (inMemory : InMemory key settings components)
include inMemory

/-- Such components have the signer whose runs these are. -/
theorem InMemory.signing : components.signer = some (signer key) := by
  obtain ⟨⟨services, random, built, needed, rfl⟩, directory⟩ := inMemory
  rw [Components.signer_of_needSigner built needed, signerOf_inMemory directory]

/-- The receipt service has that signer. -/
theorem InMemory.listener (transport : Components.Transport) :
    components.listener settings transport .receipt = .ok (.site (Site.receipts (signer key))) := by
  simp only [Components.listener, Components.receiptSite, Components.requireSigner,
    inMemory.signing]
  rfl

/-- So has a resolver without a remote receipt service. -/
theorem InMemory.collaborators (near : settings.resolver.receiptUrl = none)
    (transport : Components.Transport) :
    ∃ collaborators, components.collaborators settings.resolver transport = .ok collaborators := by
  simp only [Components.collaborators, Components.submitCall, near, Components.requireSigner,
    inMemory.signing]
  exact ⟨_, rfl⟩

end Wiring

/-- After any run from an empty ledger in which no id repeats, once the tasks of all requests are
done, the ledger holds one receipt for each request that came to hand in a resolution, be it
dropped afterwards or not, and for each client that was told that its record is stored, and no
others. The receipt of a request has its resolution as record and that of another client the
record in its body, under the id in the ticket. Each receipt is found under its id, and its
signature fits.

The runs are those of the program. The signer takes a waiting task to its end in any scene. And in
a process that keeps receipts in memory, what the receipt service does with a record that is handed
in, and the resolver with a request, in one go is a run in which a client more comes and has its
response or its outcome at the end. -/
theorem ledger_of_run {key : Receipt.Key} {world : World} {events : List Event} {scene : Scene}
    (run : Run (Step key) ⟨world, []⟩ events scene) (empty : world.memory = .empty)
    (fresh : Fresh scene.world) (settled : ∀ client ∈ scene.clients, client.Settled) :
    scene.world.memory.entries.Perm (scene.clients.filterMap Client.filedAs?) ∧
    (∀ client ∈ scene.clients,
      client.filed?.map (fun receipt => receipt.payload.record) = client.owed?) ∧
    (∀ client ∈ scene.clients, ∀ body response,
      client.front = .posting body (some response) → response.status = 201 →
      ∃ receipt location, client.filed? = some receipt ∧
        response = .json 201 (Receipt.Ticket.toJson ⟨receipt.id, location⟩)) ∧
    (∀ client ∈ scene.clients, ∀ receipt, client.filed? = some receipt →
      scene.world.memory.find? receipt.id = some receipt) ∧
    (∀ entry ∈ scene.world.memory.entries,
      entry.1 = entry.2.id ∧ key.verify entry.2 = true) ∧
    (∀ (current : Scene) before client after record,
      current.clients = before ++ client :: after → client.Works →
      client.task = some (.due record) →
      ∃ receipt location stored alone,
        (signer key).submit record current.world = (.ok ⟨receipt.id, location⟩, stored) ∧
        Run (Step key) current alone ⟨stored, before ++ client.given receipt location :: after⟩) ∧
    (∀ settings components transport, InMemory key settings components →
      ∃ site, components.listener settings transport .receipt = .ok (.site site) ∧
        ∀ (current : Scene) (request : Http.Request),
          request.method = .post → request.target.path = "/receipt" →
          let answered := site.respond request current.world
          answered = Site.takeBody (Site.submitRecord (signer key)) request current.world ∧
          ∃ alone task, Run (Step key) current alone ⟨answered.2,
            current.clients ++ [⟨.posting request.body (some answered.1), task, false⟩]⟩) ∧
    (∀ settings components transport, InMemory key settings components →
      settings.resolver.receiptUrl = none →
      (∀ message world, Aside world (transport message world).2) →
      ∃ collaborators, components.collaborators settings.resolver transport = .ok collaborators ∧
        ∀ (current : Scene) (request : Resolver.Request),
          let resolved := Resolver.run collaborators World.warn request current.world
          ∃ alone task, Run (Step key) current alone ⟨resolved.2,
              current.clients ++ [⟨.resolving request (.finished resolved.1), task, false⟩]⟩ ∧
            Client.Settled ⟨.resolving request (.finished resolved.1), task, false⟩) := by
  obtain ⟨sound, issued, distinct, kept⟩ := consistent_of_run run empty fresh
  refine ⟨kept, ?records, ?tickets, ?found, ?verified, ?submits, ?answers, ?resolves⟩
  case records =>
    intro client member
    exact (sound client member).record_filed (settled client member)
  case tickets =>
    intro client member body response asks created
    exact (sound client member).ticket asks created
  case found =>
    intro client member receipt filed
    apply Table.find?_of_mem
    · exact (kept.map Prod.fst).nodup_iff.mpr (distinct.sublist (filed_sublist scene.clients))
    · refine kept.mem_iff.mpr (List.mem_filterMap.mpr ⟨client, member, ?_⟩)
      rw [Client.filedAs?, filed]
      rfl
  case verified =>
    intro entry member
    obtain ⟨client, among, filed⟩ := List.mem_filterMap.mp (kept.mem_iff.mp member)
    obtain ⟨receipt, stored, rfl⟩ := Option.map_eq_some_iff.mp filed
    have made := List.mem_filterMap.mpr ⟨client, among, Client.receipt?_of_filed stored⟩
    exact ⟨rfl, (issued receipt made).1⟩
  case submits =>
    rintro ⟨current, clients⟩ before client after record rfl works due
    exact run_of_submit works due current
  case answers =>
    intro settings components transport inMemory
    refine ⟨_, inMemory.listener transport, fun current request posts path => ?_⟩
    have answered := respond_receipts (signer key) posts path current.world
    refine ⟨answered, ?_⟩
    rw [answered]
    exact run_of_post request current.world current.clients
  case resolves =>
    intro settings components transport inMemory near apart
    obtain ⟨collaborators, wired⟩ := inMemory.collaborators near transport
    have submits := submits_of_wiring wired near inMemory.signing apart
    refine ⟨collaborators, wired, fun current request => ?_⟩
    exact run_of_resolve submits (fun _ _ => ⟨rfl, rfl, rfl⟩) request current.world current.clients

section Dropped

variable {key : Receipt.Key}

/-- A request whose lookup is answered may be dropped while its resolution waits for a receipt. -/
theorem run_of_left (request : Resolver.Request) (answer : Answer) (world : World)
    (clients : List Client) :
    let resolution := Resolver.resolutionOf request .unknown answer .cache
    ∃ events, Run (Step key) ⟨world, clients⟩ events ⟨world, clients ++
      [⟨.resolving request (.submit resolution), some (.due (recordOf resolution)), true⟩]⟩ := by
  intro resolution
  have decided : Stage.after? request .policy (.policy .overran) = some (.lookup .unknown) := rfl
  have found : Stage.after? request (.lookup .unknown) (.lookup (.replied (some answer))) =
      some (.submit resolution) := rfl
  have began : Run (Step key) ⟨world, clients⟩ _
      ⟨world, clients ++ [⟨.resolving request .policy, none, false⟩]⟩ :=
    .step .refl (.resolve request)
  have asked := began.trans (run_of_act (.called rfl decided (by rintro _ ⟨⟩)))
  have answered := asked.trans (run_of_act (.called rfl found (by rintro _ ⟨⟩)))
  exact ⟨_, answered.trans (run_of_act (.left Nat.zero_lt_one))⟩

/-- Of two tasks that wait, the one that is stamped first may be stored last. -/
theorem run_of_overtaken {clients : List Client} {early late : Client} {record other : Json.Value}
    (earlyWorks : early.Works) (earlyDue : early.task = some (.due record))
    (lateWorks : late.Works) (lateDue : late.task = some (.due other)) (world : World) :
    ∃ receipt location made place events after,
      Run (Step key) ⟨world, clients ++ [early, late]⟩ events
        ⟨after, clients ++ [early.given receipt location, late.given made place]⟩ ∧
      after.entropy = world.entropy ∧ after.drawn = world.drawn + 2 := by
  let stamped := ((signer key).stamp world).2
  let made := (signer key).receiptFor ((signer key).stamp world).1 other
  let waiting : Client := { late with task := some (.stamped made) }
  have stamps : Run (Step key) ⟨world, clients ++ [early] ++ [late]⟩ _
      ⟨stamped, clients ++ [early] ++ [waiting]⟩ := run_of_act (.stamped lateWorks lateDue)
  obtain ⟨receipt, location, stored, alone, submitted, files⟩ :=
    @run_of_submit key clients [waiting] early record earlyWorks earlyDue stamped
  obtain rfl : ((signer key).submit record stamped).2 = stored := congrArg Prod.snd submitted
  have stores : Run (Step key) ⟨((signer key).submit record stamped).2,
      clients ++ [early.given receipt location] ++ [waiting]⟩ _ _ :=
    run_of_act (.stored lateWorks rfl rfl)
  rw [List.append_assoc clients [early], List.append_assoc clients [early]] at stamps
  rw [List.append_assoc clients [early.given receipt location],
    List.append_assoc clients [early.given receipt location]] at stores
  exact ⟨_, _, _, _, _, _, (stamps.trans files).trans stores, rfl, rfl⟩

/-- A client whose task is done and that is owed a receipt. -/
structure Client.Receives (client : Client) : Prop where
  settled : client.Settled
  owed : client.owed?.isSome = true

/-- Clients that are owed receipts have as many of them as they are. -/
theorem length_filedAs {clients : List Client} (receives : ∀ client ∈ clients, client.Receives)
    (records : ∀ client ∈ clients,
      client.filed?.map (fun receipt => receipt.payload.record) = client.owed?) :
    (clients.filterMap Client.filedAs?).length = clients.length := by
  rw [List.length_filterMap_eq_countP, List.countP_eq_length]
  intro client member
  have owed := (receives client member).owed
  rw [← records client member] at owed
  simpa [Client.filedAs?] using owed

/-- A record is handed in to the receipt service and a name is resolved, and then a request is
dropped whose receipt waits while another record is handed in. All four have their receipts in the
end. -/
theorem ledger_of_run_dropped :
    ∃ components site collaborators,
      Components.ofSettings Components.alone [.doh, .receipt] [] = .ok components ∧
      components.listener Components.alone Components.unreachable .receipt = .ok (.site site) ∧
      components.collaborators Components.alone.resolver Components.unreachable =
        .ok collaborators ∧
      let request : Resolver.Request := ⟨⟨"example.com", by decide⟩, 2000⟩
      let answered := site.respond ⟨.post, ⟨"/receipt", none⟩, [0x7b, 0x7d]⟩ freshProcess
      let resolved := Resolver.run collaborators World.warn request answered.2
      answered.1.status = 201 ∧ (∃ resolution, resolved.1 = .ok resolution) ∧
      ∃ before clients after scene,
        Run (Step ⟨[]⟩) ⟨freshProcess, []⟩ before ⟨resolved.2, clients⟩ ∧
        Run (Step ⟨[]⟩) ⟨resolved.2, clients⟩ after scene ∧
        (∃ client ∈ scene.clients, client.dropped = true) ∧
        scene.world.memory.entries.length = 4 := by
  obtain ⟨components, built⟩ : ∃ components,
      Components.ofSettings Components.alone [.doh, .receipt] [] = .ok components := ⟨_, rfl⟩
  have inMemory : InMemory ⟨[]⟩ Components.alone components :=
    ⟨⟨_, _, built, rfl, rfl⟩, rfl⟩
  have idle : Run (Step ⟨[]⟩) ⟨freshProcess, []⟩ [] ⟨freshProcess, []⟩ := .refl
  obtain ⟨-, -, -, -, -, -, answers, resolves⟩ :=
    ledger_of_run idle rfl (by rintro first second earlier ⟨⟩) (by rintro client ⟨⟩)
  obtain ⟨site, serves, answers⟩ := answers _ _ Components.unreachable inMemory
  obtain ⟨collaborators, wired, resolves⟩ :=
    resolves _ _ Components.unreachable inMemory rfl fun _ _ => ⟨rfl, rfl, rfl⟩
  refine ⟨components, site, collaborators, built, serves, wired, ?_⟩
  intro request answered resolved
  obtain ⟨-, first, filing, posted⟩ :=
    answers ⟨freshProcess, []⟩ ⟨.post, ⟨"/receipt", none⟩, [0x7b, 0x7d]⟩ rfl rfl
  obtain ⟨second, task, asked, settled⟩ :=
    resolves ⟨answered.2, [⟨.posting [0x7b, 0x7d] (some answered.1), filing, false⟩]⟩ request
  let clients : List Client := [⟨.posting [0x7b, 0x7d] (some answered.1), filing, false⟩,
    ⟨.resolving request (.finished resolved.1), task, false⟩]
  let resolution := Resolver.resolutionOf request .unknown ⟨"A", 60, "203.0.113.10"⟩ .cache
  let early : Client :=
    ⟨.resolving request (.submit resolution), some (.due (recordOf resolution)), true⟩
  let late : Client := ⟨.posting [0x7b, 0x7d] none, some (.due (.object [])), false⟩
  obtain ⟨_, leaves⟩ := @run_of_left ⟨[]⟩ request ⟨"A", 60, "203.0.113.10"⟩ resolved.2 clients
  obtain ⟨receipt, location, made, place, _, after, overtakes, entropy, drawn⟩ :=
    @run_of_overtaken ⟨[]⟩ clients early late _ _ trivial rfl rfl rfl resolved.2
  have comes : Run (Step ⟨[]⟩) ⟨resolved.2, clients ++ [early]⟩ _
      ⟨resolved.2, clients ++ [early] ++ [late]⟩ :=
    (Run.step .refl (.post _)).trans (run_of_act (.took rfl))
  rw [List.append_assoc clients [early]] at comes
  have last := (leaves.trans comes).trans overtakes
  have run := (posted.trans asked).trans last
  cases built
  cases serves
  cases wired
  have created : answered.1.status = 201 := by decide +kernel
  have owed : (if answered.1.status = 201 then (handedIn [0x7b, 0x7d]).toOption
      else none).isSome = true := by
    rw [if_pos created]
    decide +kernel
  obtain ⟨found, ended⟩ : ∃ resolution, resolved.1 = .ok resolution := ⟨_, rfl⟩
  have drawnBefore : resolved.2.drawn = 2 := by decide +kernel
  have entropyBefore : resolved.2.entropy = freshProcess.entropy := rfl
  have fresh : Fresh after := by
    intro first second earlier late
    rw [drawn, drawnBefore] at late
    rw [entropy, entropyBefore]
    exact (by decide +kernel : ∀ second < 4, ∀ first < second,
      Receipt.idOf (freshProcess.entropy first) ≠ Receipt.idOf (freshProcess.entropy second))
        second late first earlier
  have receives : ∀ client ∈ clients ++ [early.given receipt location, late.given made place],
      client.Receives := by
    simp only [clients, List.cons_append, List.nil_append, List.forall_mem_cons]
    refine ⟨⟨trivial, owed⟩, ⟨settled, by rw [ended]; rfl⟩, ⟨?_, rfl⟩, ⟨trivial, rfl⟩,
      fun _ member => absurd member List.not_mem_nil⟩
    rintro task started
    cases started
    exact ⟨receipt, location, rfl⟩
  obtain ⟨ledger, records, -⟩ :=
    ledger_of_run run rfl fresh fun client member => (receives client member).settled
  refine ⟨created, ⟨found, ended⟩, _, _, _, _, posted.trans asked, last,
    ⟨early.given receipt location, by simp, rfl⟩, ?_⟩
  rw [ledger.length_eq, length_filedAs receives records]
  rfl

end Dropped

end GatedResolver.Filing
