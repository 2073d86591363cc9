import GatedResolver.Proofs.Deployment.Calls
import GatedResolver.Proofs.Remote.Calls
import GatedResolver.Proofs.Resolver.Reliable

/-!
# Pipelines in one process and in several

A resolver that works in one process does so on the components of that process. One that is
`Distributed` has an address for each collaborator, and what it sends there is delivered to the
sites of other components. Both have reliable collaborators: the former always, the latter where
what it sends is short enough for an address or a body and comes back as it was.
-/

namespace GatedResolver

open Http (Target)
open Resolver (Collaborators Reliable decisionIn)

/-- A resolver that has all of its collaborators in its own process, and its receipts in
memory. -/
structure InProcess (components : Components) (key : Receipt.Key) (settings : ResolverSettings) :
    Prop where
  policy : settings.policyUrl = none
  cache : settings.cacheUrl = none
  quorum : settings.quorumUrl = none
  receipts : settings.receiptUrl = none
  signing : components.signer = some (Filing.signer key)

/-- The addresses of the services that a resolver asks. -/
structure Addresses where
  policy : String
  cache : String
  quorum : String
  receipts : String

/-- An address of a service, without a query: it is that of a path, and whatever is sent to it is
delivered to a site. -/
structure Serves (transport : Components.Transport) (site : Site (StateM World)) (path url : String) :
    Prop where
  addressed : Target.ofText url = .ok ⟨path, none⟩
  delivers : Remote.Delivers transport site url

/-- A resolver that asks remote services for everything, which are the sites of some components
that keep their receipts in memory. -/
structure Distributed (components : Components) (key : Receipt.Key) (addresses : Addresses)
    (settings : ResolverSettings) (transport : Components.Transport) : Prop where
  settled : settings.policyUrl = some addresses.policy ∧ settings.cacheUrl = some addresses.cache ∧
    settings.quorumUrl = some addresses.quorum ∧ settings.receiptUrl = some addresses.receipts
  signing : components.signer = some (Filing.signer key)
  policy : Serves transport components.policySite "/policy" addresses.policy
  cache : Serves transport Components.cacheSite "/cache" addresses.cache
  quorum : Serves transport components.quorumSite "/query" addresses.quorum
  receipts : ∀ site, components.receiptSite = .ok site →
    Serves transport site "/receipt" addresses.receipts

/-- A resolution that gets through to remote services: its name fits into their addresses, its
decision comes back as it was, and its document is not too long for a body. -/
structure Addresses.Carry (addresses : Addresses) (resolution : Resolution) : Prop where
  cache : (Remote.withName addresses.cache resolution.name.text).utf8ByteSize ≤ Target.sizeLimit
  quorum : (Remote.withName addresses.quorum resolution.name.text).utf8ByteSize ≤ Target.sizeLimit
  policy : resolution.policy.Relayable
  document : resolution.toJson.compact.length ≤ Site.bodyLimit

/-- What the signer of some components leaves behind when it gets the record of a resolution. -/
def filedBy (key : Receipt.Key) (resolution : Resolution) (world : World) : World :=
  ((Filing.signer key).submit (Filing.recordOf resolution) world).2

/-- A path that is empty leads to no file. -/
theorem Resolver.decisionIn_empty (files : FileSystem) : decisionIn files "" = .unknown :=
  rfl

section InProcess

variable {components : Components} {key : Receipt.Key} {settings : ResolverSettings}

/-- A resolver in one process can be wired. -/
theorem InProcess.wired (inProcess : InProcess components key settings)
    (transport : Components.Transport) :
    ∃ collaborators, components.collaborators settings transport = .ok collaborators := by
  simp only [Components.collaborators, Components.submitCall, inProcess.receipts,
    Components.requireSigner, inProcess.signing]
  exact ⟨_, rfl⟩

/-- The collaborators in one process are reliable. -/
theorem InProcess.reliable (inProcess : InProcess components key settings)
    {transport : Components.Transport} {collaborators : Collaborators (StateM World)}
    (wired : components.collaborators settings transport = .ok collaborators) {files : FileSystem}
    {resolution : Resolution} (decided : resolution.policy = decisionIn files components.policyFile) :
    Reliable collaborators components.panel files resolution (filedBy key resolution) := by
  obtain ⟨submit, submits, rfl⟩ := Components.submitCall_of_wired wired
  simp only [Components.submitCall, inProcess.receipts, Components.requireSigner,
    inProcess.signing] at submits
  cases submits
  constructor
  case policy =>
    rintro world rfl
    rw [decided]
    simp only [Components.policyCall, inProcess.policy]
    split
    · next empty =>
      rw [String.isEmpty_iff.mp empty]
      exact ⟨(Resolver.decisionIn_empty world.files).symm, rfl⟩
    · refine ⟨?_, rfl⟩
      change (Components.ending (Policy.readFile world.files components.policyFile)).reply?.getD _ = _
      rw [decisionIn]
      cases Policy.readFile world.files components.policyFile <;> rfl
  case lookup =>
    intro world
    simp only [Components.lookupCall, inProcess.cache]
    rfl
  case query =>
    intro world
    simp only [Components.queryCall, inProcess.quorum]
    exact ⟨rfl, rfl⟩
  case fill =>
    intro world _
    simp only [Components.fillCall, inProcess.cache]
    rfl
  case submit => exact fun world => rfl

end InProcess

section Distributed

variable {components : Components} {key : Receipt.Key} {addresses : Addresses}
  {settings : ResolverSettings} {transport : Components.Transport}

/-- A distributed resolver can be wired. -/
theorem Distributed.wired (distributed : Distributed components key addresses settings transport) :
    ∃ collaborators, components.collaborators settings transport = .ok collaborators := by
  simp only [Components.collaborators, Components.submitCall, distributed.settled.2.2.2]
  exact ⟨_, rfl⟩

/-- Remote collaborators are reliable for a resolution whose name fits into their addresses, as far
as the policy service replies with its decision and its answer can be stored. -/
theorem Distributed.reliable_of_reply
    (distributed : Distributed components key addresses settings transport)
    {collaborators : Collaborators (StateM World)}
    (wired : components.collaborators settings transport = .ok collaborators) {files : FileSystem}
    {resolution : Resolution} {filed : World → World}
    (replied : ∀ world, world.files = files →
      (Components.policyCall components settings transport world).1.toOption.getD .unknown =
          resolution.policy ∧ (components.policyCall settings transport world).2 = world)
    (cacheFits : (Remote.withName addresses.cache resolution.name.text).utf8ByteSize ≤
      Target.sizeLimit)
    (quorumFits : (Remote.withName addresses.quorum resolution.name.text).utf8ByteSize ≤
      Target.sizeLimit)
    (answerFits : (CacheWrite.toJson resolution.name resolution.answer).compact.length ≤
      Site.bodyLimit)
    (handed : ∀ world, (Remote.submitReceipt transport
      (Remote.receiptClient addresses.receipts settings.timeoutMs.toNat) resolution world).2 =
        filed world) :
    Reliable collaborators components.panel files resolution filed := by
  obtain ⟨-, cacheUrl, quorumUrl, receiptUrl⟩ := distributed.settled
  obtain ⟨submit, submits, rfl⟩ := Components.submitCall_of_wired wired
  simp only [Components.submitCall, receiptUrl] at submits
  cases submits
  constructor
  case policy =>
    intro world here
    obtain ⟨decision, still⟩ := replied world here
    refine ⟨?_, still⟩
    rw [← decision]
    change (Components.ending (components.policyCall settings transport world).1).reply?.getD _ = _
    cases (components.policyCall settings transport world).1 <;> rfl
  case lookup =>
    intro world
    have asked := Remote.askCache_delivered settings.timeoutMs.toNat distributed.cache.delivers
      distributed.cache.addressed cacheFits world
    simp only [Components.lookupCall, cacheUrl]
    change (Components.ending (Remote.askCache transport _ _ world).1,
      (Remote.askCache transport _ _ world).2) = _
    rw [asked]
    rfl
  case query =>
    intro world
    have asked := Remote.askQuorum_delivered settings.timeoutMs.toNat distributed.quorum.delivers
      distributed.quorum.addressed quorumFits world
    simp only [Components.queryCall, quorumUrl]
    change (Components.ending (Remote.askQuorum transport _ _ world).1).reply?.map _ = _ ∧
      (Remote.askQuorum transport _ _ world).2 = world
    rw [asked]
    exact ⟨rfl, rfl⟩
  case fill =>
    intro world given
    rw [given] at answerFits
    have stored := Remote.fillCache_delivered settings.timeoutMs.toNat distributed.cache.delivers
      distributed.cache.addressed answerFits world
    simp only [Components.fillCall, cacheUrl]
    change (Remote.fillCache transport _ _ _ world).2 = _
    rw [stored]
  case submit => exact handed

/-- A remote policy service replies with a decision that comes back as it was. -/
theorem Distributed.policyCall_eq
    (distributed : Distributed components key addresses settings transport) (world : World)
    (relayable : (decisionIn world.files components.policyFile).Relayable) :
    (components.policyCall settings transport world).1.toOption.getD .unknown =
        decisionIn world.files components.policyFile ∧
      (components.policyCall settings transport world).2 = world := by
  have comesBack : ∀ decision,
      Policy.readFile world.files components.policyFile = .ok decision → decision.Relayable := by
    intro decision read
    rw [decisionIn, read] at relayable
    exact relayable
  obtain ⟨decision, still⟩ := Remote.askPolicy_delivered settings.timeoutMs.toNat
    distributed.policy.delivers distributed.policy.addressed world comesBack
  simp only [Components.policyCall, distributed.settled.1]
  exact ⟨congrArg (fun found => found.getD .unknown) decision, still⟩

/-- The site of the receipts of a distributed resolver. -/
theorem Distributed.serves_receipts
    (distributed : Distributed components key addresses settings transport) :
    Serves transport (Site.receipts (Filing.signer key)) "/receipt" addresses.receipts := by
  refine distributed.receipts _ ?_
  simp only [Components.receiptSite, Components.requireSigner, distributed.signing]
  rfl

/-- Remote collaborators are reliable for a resolution that gets through to them. -/
theorem Distributed.reliable (distributed : Distributed components key addresses settings transport)
    {collaborators : Collaborators (StateM World)}
    (wired : components.collaborators settings transport = .ok collaborators) {files : FileSystem}
    {resolution : Resolution} (decided : resolution.policy = decisionIn files components.policyFile)
    (carried : addresses.Carry resolution) :
    Reliable collaborators components.panel files resolution (filedBy key resolution) := by
  apply distributed.reliable_of_reply wired
  case replied =>
    rintro world rfl
    rw [decided]
    exact distributed.policyCall_eq world (decided ▸ carried.policy)
  case cacheFits => exact carried.cache
  case quorumFits => exact carried.quorum
  case answerFits => exact Nat.le_trans resolution.length_cacheWrite_le carried.document
  case handed =>
    intro world
    have serves := distributed.serves_receipts
    exact Remote.submitReceipt_delivered settings.timeoutMs.toNat serves.delivers serves.addressed
      carried.policy carried.document world

end Distributed

end GatedResolver
