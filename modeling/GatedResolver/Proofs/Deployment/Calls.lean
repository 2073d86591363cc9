import GatedResolver.Deployment.Wiring

/-!
# What the calls of a wired resolver leave alone

A call goes to another process or to a component of its own one. Whatever part of the state
messages leave alone, a call leaves alone too, unless its own component works on that part.
-/

namespace GatedResolver.Components

variable {components : Components} {settings : ResolverSettings} {transport : Transport}

section Kept

variable {Kept : World → World → Prop} (still : ∀ world, Kept world world)
  (sent : ∀ message world, Kept world (transport message world).2)
include still sent

/-- Asking for the policy changes no more than messages do. -/
theorem policyCall_keeps (world : World) :
    Kept world (components.policyCall settings transport world).2 := by
  cases remote : settings.policyUrl with
  | some url =>
    simp only [policyCall, remote]
    exact sent _ world
  | none =>
    simp only [policyCall, remote]
    split <;> exact still world

/-- Asking the quorum changes no more than messages do. -/
theorem queryCall_keeps (name : Name) (world : World) :
    Kept world (components.queryCall settings transport name world).2 := by
  cases remote : settings.quorumUrl with
  | some url =>
    simp only [queryCall, remote]
    exact sent _ world
  | none =>
    simp only [queryCall, remote]
    exact still world

omit still in
/-- Asking the cache changes no more than messages and lookups do. -/
theorem lookupCall_keeps
    (asked : ∀ name world, Kept world (World.onCache (fun cache => cache.get name) world).2)
    (name : Name) (world : World) :
    Kept world (lookupCall settings transport name world).2 := by
  cases remote : settings.cacheUrl with
  | some url =>
    simp only [lookupCall, remote]
    exact sent _ world
  | none =>
    simp only [lookupCall, remote]
    exact asked name world

omit still in
/-- Filling the cache changes no more than messages and insertions do. -/
theorem fillCall_keeps
    (put : ∀ name answer world,
      Kept world (World.onCache (fun cache => ((), cache.put name answer)) world).2)
    (name : Name) (answer : Answer) (world : World) :
    Kept world (fillCall settings transport name answer world).2 := by
  cases remote : settings.cacheUrl with
  | some url =>
    simp only [fillCall, remote]
    exact sent _ world
  | none =>
    simp only [fillCall, remote]
    exact put name answer world

omit still in
/-- Handing a resolution in changes no more than messages and the signer do. -/
theorem submitCall_keeps
    (signed : ∀ signer ∈ components.signer, ∀ record world,
      Kept world (signer.submit record world).2)
    {submit : Resolution → StateM World (Except Failure Receipt.Ticket)}
    (submits : components.submitCall settings transport = .ok submit) (resolution : Resolution)
    (world : World) : Kept world (submit resolution world).2 := by
  unfold submitCall at submits
  split at submits
  · cases submits
    exact sent _ world
  · unfold requireSigner at submits
    split at submits
    · next signer signs =>
      cases submits
      exact signed signer signs _ world
    · cases submits

end Kept

/-- A resolver is wired exactly when there is a way to hand in resolutions. -/
theorem submitCall_of_wired {collaborators : Resolver.Collaborators (StateM World)}
    (wired : components.collaborators settings transport = .ok collaborators) :
    ∃ submit, components.submitCall settings transport = .ok submit ∧
      collaborators =
        { policy := inTime (components.policyCall settings transport)
          lookup := fun name => inTime (lookupCall settings transport name)
          query := fun name => inTime (components.queryCall settings transport name)
          fill := fun name answer => inTime (fillCall settings transport name answer)
          submit := fun resolution => do
            return ending ((← submit resolution).map .stored) } := by
  unfold Components.collaborators at wired
  cases submits : components.submitCall settings transport with
  | error fault =>
    rw [submits] at wired
    cases wired
  | ok submit =>
    rw [submits] at wired
    cases wired
    exact ⟨submit, rfl, rfl⟩

end GatedResolver.Components
