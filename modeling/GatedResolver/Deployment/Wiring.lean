import GatedResolver.Deployment.Components
import GatedResolver.Policy.Source
import GatedResolver.Remote.Client
import GatedResolver.Resolver.Run

/-!
# Wiring the resolver

The resolver asks a remote service for each collaborator whose address is set, and a
component of its own process for each other one. A process whose components have no signer
cannot wire a resolver that signs receipts itself.
-/

namespace GatedResolver

/-- Why a service cannot be wired. -/
inductive WiringFault where
  /-- The components were built without a signer. -/
  | noSigner
deriving DecidableEq

/-- A fault of the wiring in words. -/
def WiringFault.message : WiringFault → String
  | .noSigner => "receipt signer was not built for this service set"

namespace Components

/-- A way to send messages to addresses. -/
abbrev Transport := Remote.Message → StateM World Remote.Exchange

/-- How a call ended that had a result in time. -/
def ending {α : Type} : Except Failure α → Resolver.Ending α
  | .ok value => .replied value
  | .error failure => .failed failure

/-- A call whose result comes in time. -/
def inTime {α : Type} (work : StateM World (Except Failure α)) :
    StateM World (Resolver.Ending α) :=
  ending <$> work

/-- The signer, which not all components have. -/
def requireSigner (components : Components) : Except WiringFault (Receipt.Signer World) :=
  match components.signer with
  | some signer => .ok signer
  | none => .error .noSigner

variable (components : Components) (settings : ResolverSettings) (transport : Transport)

/-- How the policy is asked for. Without a file and an address it is always unknown. -/
def policyCall : StateM World (Except Failure Policy.Decision) :=
  match settings.policyUrl with
  | some url => Remote.askPolicy transport (Remote.policyClient url settings.timeoutMs.toNat)
  | none =>
    if components.policyFile.isEmpty then return .ok .unknown
    else fun world => (Policy.readFile world.files components.policyFile, world)

/-- How the cache is asked. -/
def lookupCall (name : Name) : StateM World (Except Failure (Option Answer)) :=
  match settings.cacheUrl with
  | some url => Remote.askCache transport (Remote.cacheClient url settings.timeoutMs.toNat) name
  | none => Except.ok <$> World.onCache fun cache => cache.get name

/-- How the quorum is asked. -/
def queryCall (name : Name) : StateM World (Except Failure Quorum.Reply) :=
  match settings.quorumUrl with
  | some url => Remote.askQuorum transport (Remote.quorumClient url settings.timeoutMs.toNat) name
  | none => return .ok (components.panel.reply name)

/-- How the cache is filled. -/
def fillCall (name : Name) (answer : Answer) : StateM World (Except Failure Unit) :=
  match settings.cacheUrl with
  | some url =>
    Remote.fillCache transport (Remote.cacheClient url settings.timeoutMs.toNat) name answer
  | none => Except.ok <$> World.onCache fun cache => ((), cache.put name answer)

/-- How resolutions are handed in for a receipt. The record of a receipt has its members in
ascending order of keys. -/
def submitCall :
    Except WiringFault (Resolution → StateM World (Except Failure Receipt.Ticket)) :=
  match settings.receiptUrl with
  | some url =>
    .ok (Remote.submitReceipt transport (Remote.receiptClient url settings.timeoutMs.toNat))
  | none =>
    components.requireSigner.map fun signer resolution =>
      signer.submit (Json.sortKeys resolution.toJson)

/-- The collaborators of the resolver. -/
def collaborators : Except WiringFault (Resolver.Collaborators (StateM World)) :=
  (components.submitCall settings transport).map fun submit =>
    { policy := inTime (components.policyCall settings transport)
      lookup := fun name => inTime (lookupCall settings transport name)
      query := fun name => inTime (components.queryCall settings transport name)
      fill := fun name answer => inTime (fillCall settings transport name answer)
      submit := fun resolution => do
        return ending ((← submit resolution).map .stored) }

/-- The resolver. -/
def resolver : Except WiringFault (Name → StateM World Resolver.Outcome) :=
  (components.collaborators settings transport).map fun collaborators name =>
    Resolver.run collaborators World.warn ⟨name, settings.timeoutMs.toNat⟩

/-- What the operator is told when the resolver is wired. -/
def resolverWarnings : List Warning :=
  if settings.policyUrl.isNone && components.policyFile.isEmpty then [.noPolicy] else []

end Components

end GatedResolver
