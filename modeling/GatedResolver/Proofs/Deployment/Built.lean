import GatedResolver.Deployment.Listeners
import GatedResolver.Proofs.Success

/-!
# Components that were built

Three conditions have to agree on which services sign receipts: the one for building a signer, the
one for wiring the resolver, and the one for wiring the receipt service. They do, so components have
whatever the services need that they were built for.
-/

namespace GatedResolver.Components

variable {settings : Settings} {services : List Service} {random : Bytes}
  {components : Components}

/-- Receipts are signed by the receipt service, and by a front door unless there is a remote receipt
service. -/
theorem needSigner_eq_true_iff :
    needSigner settings services = true ↔
      .receipt ∈ services ∨
        settings.resolver.receiptUrl = none ∧ (.doh ∈ services ∨ .dot ∈ services) := by
  rw [needSigner, List.any_eq_true]
  constructor
  · rintro ⟨service, belongs, signing⟩
    cases service with
    | receipt => exact .inl belongs
    | doh => exact .inr ⟨Option.isNone_iff_eq_none.mp signing, .inl belongs⟩
    | dot => exact .inr ⟨Option.isNone_iff_eq_none.mp signing, .inr belongs⟩
    | policy | quorum | cache => cases signing
  · rintro (belongs | ⟨near, belongs | belongs⟩)
    · exact ⟨.receipt, belongs, rfl⟩
    · exact ⟨.doh, belongs, Option.isNone_iff_eq_none.mpr near⟩
    · exact ⟨.dot, belongs, Option.isNone_iff_eq_none.mpr near⟩

/-- Components can be built if the default name is a name. -/
theorem exists_ofSettings (named : nameFault? settings.resolver.defaultName = none)
    (services : List Service) (random : Bytes) :
    ∃ components, ofSettings settings services random = .ok components := by
  have parsed := Name.parse_text ⟨settings.resolver.defaultName, named⟩
  simp only [ofSettings, parsed]
  exact ⟨_, rfl⟩

section Built

variable (built : ofSettings settings services random = .ok components)
include built

/-- What components for some services have. -/
theorem spec_of_ofSettings :
    components.signer =
        (if needSigner settings services then some (signerOf settings.receipt random) else none) ∧
      Name.parse settings.resolver.defaultName = .ok components.defaultName := by
  obtain ⟨defaultName, parsed, same⟩ := ok_of_bind built
  cases same
  exact ⟨rfl, parsed⟩

/-- Components have a signer exactly if one of their services signs receipts itself. -/
theorem signer_isSome_iff :
    components.signer.isSome = true ↔ needSigner settings services = true := by
  rw [(spec_of_ofSettings built).1]
  split <;> simp [*]

/-- Components for a service that signs receipts itself have the signer of the settings. -/
theorem signer_of_needSigner (needed : needSigner settings services = true) :
    components.signer = some (signerOf settings.receipt random) := by
  rw [(spec_of_ofSettings built).1, if_pos needed]

/-- Resolutions can be handed in by components that were built for a front door: to the signer, or
to the remote receipt service. -/
theorem exists_collaborators (served : .doh ∈ services ∨ .dot ∈ services) (transport : Transport) :
    ∃ collaborators, components.collaborators settings.resolver transport = .ok collaborators := by
  cases remote : settings.resolver.receiptUrl with
  | some url =>
    simp only [collaborators, submitCall, remote]
    exact ⟨_, rfl⟩
  | none =>
    have signing := signer_of_needSigner built (needSigner_eq_true_iff.mpr (.inr ⟨remote, served⟩))
    simp only [collaborators, submitCall, remote, requireSigner, signing]
    exact ⟨_, rfl⟩

end Built

/-- The settings of a process that keeps receipts in memory and has no policy file. -/
def alone : Settings :=
  { receipt := ⟨none, ""⟩, policy := ⟨""⟩ }

/-- A process that has just begun, without a file. -/
def vacant : World where
  files := .empty
  entropy := fun _ => Vector.replicate 16 0

/-- A transport that reaches nothing. -/
def unreachable : Transport :=
  fun _ world => (.failed, world)

end GatedResolver.Components
