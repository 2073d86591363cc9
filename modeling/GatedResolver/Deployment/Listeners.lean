import GatedResolver.Deployment.Wiring
import GatedResolver.Site.Cache
import GatedResolver.Site.FrontDoor
import GatedResolver.Site.Policy
import GatedResolver.Site.Quorum
import GatedResolver.Site.Receipts
import GatedResolver.Stream.Listener

/-!
# Listeners

Every service of a process listens on its own: five of them are sites, the sixth is the
stream listener. All of them work on the state that the components share.
-/

namespace GatedResolver

/-- What a service does with what arrives. -/
inductive Listener where
  /-- It answers requests. -/
  | site (site : Site (StateM World))
  /-- It answers bytes on a stream. -/
  | stream (reply : Bytes → StateM World (Option Bytes))

namespace Components

variable (components : Components) (settings : Settings) (transport : Transport)

/-- The site of the policy file. -/
def policySite : Site (StateM World) :=
  (Site.policy components.policyFile).lift World.onFiles

/-- The site of the cache. -/
def cacheSite : Site (StateM World) :=
  Site.cache.lift World.onCache

/-- The site of the panel. -/
def quorumSite : Site (StateM World) :=
  Site.quorum components.panel components.defaultName

/-- The site of the signer. -/
def receiptSite : Except WiringFault (Site (StateM World)) :=
  components.requireSigner.map Site.receipts

/-- The site of the resolver. -/
def frontDoor : Except WiringFault (Site (StateM World)) :=
  (components.resolver settings.resolver transport).map fun resolve =>
    Site.frontDoor resolve components.defaultName

/-- The stream listener in front of the resolver. -/
def streamDoor : Except WiringFault (Bytes → StateM World (Option Bytes)) :=
  (components.resolver settings.resolver transport).map fun resolve =>
    Stream.reply (some resolve) World.now

/-- The stream listener of a process without a resolver. -/
def bareStreamDoor : Bytes → StateM World (Option Bytes) :=
  Stream.reply none World.now

/-- The listener of a service. -/
def listener : Service → Except WiringFault Listener
  | .policy => .ok (.site components.policySite)
  | .quorum => .ok (.site components.quorumSite)
  | .cache => .ok (.site cacheSite)
  | .receipt => components.receiptSite.map .site
  | .doh => (components.frontDoor settings transport).map .site
  | .dot => (components.streamDoor settings transport).map .stream

end Components

end GatedResolver
