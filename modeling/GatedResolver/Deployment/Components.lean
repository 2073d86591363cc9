import GatedResolver.Deployment.World
import GatedResolver.Quorum.Panel
import GatedResolver.Settings.Basic

/-!
# Components

Components are built from settings for the services that are to run. The signer is built
only if one of them signs receipts itself: the receipt service always does, the two front
doors do unless the settings name a remote receipt service.
-/

namespace GatedResolver

/-- What the services of a process are made of. The state they share is kept apart. -/
structure Components where
  panel : Quorum.Panel
  signer : Option (Receipt.Signer World)
  policyFile : String
  defaultName : Name

namespace Components

/-- Whether a service signs receipts itself. -/
def signs (settings : Settings) : Service → Bool
  | .receipt => true
  | .doh | .dot => settings.resolver.receiptUrl.isNone
  | .policy | .quorum | .cache => false

/-- Whether any of some services signs receipts itself. -/
def needSigner (settings : Settings) (services : List Service) : Bool :=
  services.any (signs settings)

/-- The signer that the settings describe, where `random` is the secret in case that none
is configured. -/
def signerOf (settings : ReceiptSettings) (random : Bytes) : Receipt.Signer World :=
  ⟨(Receipt.Secret.ofSettings settings.secret random).key, World.ledger settings.directory,
    World.stamp⟩

/-- The components for some services. -/
def ofSettings (settings : Settings) (services : List Service) (random : Bytes) :
    Except Failure Components := do
  let signer :=
    if needSigner settings services then some (signerOf settings.receipt random) else none
  let defaultName ← Name.parse settings.resolver.defaultName
  return ⟨.ofSettings settings.quorum, signer, settings.policy.path, defaultName⟩

/-- What the operator is told when a signer is built. -/
def signerWarnings (settings : ReceiptSettings) : List Warning :=
  (if settings.directory.isEmpty then [.receiptsInMemory] else []) ++
    if (Receipt.Secret.ofSettings settings.secret []).isEphemeral then [.ephemeralSecret] else []

/-- What the operator is told when the components for some services are built. -/
def warnings (settings : Settings) (services : List Service) : List Warning :=
  (if needSigner settings services then signerWarnings settings.receipt else []) ++
    (Quorum.Panel.ofSettings settings.quorum).warnings

end Components

end GatedResolver
