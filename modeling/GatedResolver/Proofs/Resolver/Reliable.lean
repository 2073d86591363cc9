import GatedResolver.Policy.Source
import GatedResolver.Quorum.Panel
import GatedResolver.Deployment.World
import GatedResolver.Proofs.Resolver.Stepwise

/-!
# Requests with reliable collaborators

Collaborators are `Reliable` for a resolution if each of them does its work on one shared state,
be it in the same process or elsewhere. A request to such collaborators ends with that
resolution, and what it leaves behind is known from the state alone.
-/

namespace GatedResolver.Resolver

/-- The decision in a policy file, which is unknown where there is none. -/
def decisionIn (files : FileSystem) (file : String) : Policy.Decision :=
  (Policy.readFile files file).toOption.getD .unknown

/-- What a name is resolved to: the answer in the cache, or that of the panel. -/
def resolved (panel : Quorum.Panel) (policy : Policy.Decision) (name : Name) (cache : Cache) :
    Resolution :=
  match cache.find? name with
  | some answer => ⟨name, policy, answer, some .cache⟩
  | none => ⟨name, policy, panel.answer, some .quorum⟩

/-- The cache after a name was resolved. -/
def cacheAfter (panel : Quorum.Panel) (name : Name) (cache : Cache) : Cache :=
  match cache.find? name with
  | some _ => (cache.get name).2
  | none => (cache.get name).2.put name panel.answer

/-- Collaborators that do their work on one shared state, as far as it takes to come to a
resolution. What becomes of the state when the resolution is handed in is `filed`, whatever the
resolver is told. -/
structure Reliable (collaborators : Collaborators (StateM World)) (panel : Quorum.Panel)
    (files : FileSystem) (resolution : Resolution) (filed : World → World) : Prop where
  policy : ∀ world, world.files = files →
    (collaborators.policy world).1.reply?.getD .unknown = resolution.policy ∧
      (collaborators.policy world).2 = world
  lookup : ∀ world, collaborators.lookup resolution.name world =
    (.replied (world.cache.find? resolution.name),
      { world with cache := (world.cache.get resolution.name).2 })
  query : ∀ world, (collaborators.query resolution.name world).1.reply?.map Quorum.Reply.answer =
      some panel.answer ∧ (collaborators.query resolution.name world).2 = world
  fill : ∀ world, resolution.answer = panel.answer →
    (collaborators.fill resolution.name panel.answer world).2 =
      { world with cache := world.cache.put resolution.name panel.answer }
  submit : ∀ world, (collaborators.submit resolution world).2 = filed world

/-- How far a request to reliable collaborators has come: what it knows, and what is left of the
state that it began with. Warnings aside, only the cache changes before the resolution is handed
in. -/
def Stage.Reached (panel : Quorum.Panel) (resolution : Resolution) (filed : World → World)
    (world current : World) : Stage → Prop
  | .policy => ∃ warnings, current = { world with warnings := warnings }
  | .lookup decision => decision = resolution.policy ∧
    ∃ warnings, current = { world with warnings := warnings }
  | .query decision => decision = resolution.policy ∧ world.cache.find? resolution.name = none ∧
    ∃ warnings, current = { world with
      cache := (world.cache.get resolution.name).2, warnings := warnings }
  | .fill decision answer => decision = resolution.policy ∧ answer = panel.answer ∧
    world.cache.find? resolution.name = none ∧ ∃ warnings, current = { world with
      cache := (world.cache.get resolution.name).2, warnings := warnings }
  | .submit known => known = resolution ∧ ∃ warnings, current = { world with
      cache := cacheAfter panel resolution.name world.cache, warnings := warnings }
  | .finished outcome => outcome = .ok resolution ∧ ∃ before after, current =
    { filed { world with cache := cacheAfter panel resolution.name world.cache, warnings := before }
      with warnings := after }

section Steps

variable {panel : Quorum.Panel} {resolution : Resolution} {filed : World → World} {world : World}
  {collaborators : Collaborators (StateM World)} {request : Request}

/-- A warning leaves a request where it is. -/
theorem Stage.Reached.warned {stage : Stage} {current : World}
    (reached : stage.Reached panel resolution filed world current) (warning : Warning) :
    stage.Reached panel resolution filed world (World.warn warning current).2 := by
  cases stage with
  | policy =>
    obtain ⟨warnings, rfl⟩ := reached
    exact ⟨_, rfl⟩
  | lookup decision =>
    obtain ⟨known, warnings, rfl⟩ := reached
    exact ⟨known, _, rfl⟩
  | query decision =>
    obtain ⟨known, missing, warnings, rfl⟩ := reached
    exact ⟨known, missing, _, rfl⟩
  | fill decision answer =>
    obtain ⟨known, given, missing, warnings, rfl⟩ := reached
    exact ⟨known, given, missing, _, rfl⟩
  | submit other =>
    obtain ⟨known, warnings, rfl⟩ := reached
    exact ⟨known, _, rfl⟩
  | finished outcome =>
    obtain ⟨known, before, after, rfl⟩ := reached
    exact ⟨known, before, _, rfl⟩

variable (settled : resolution = resolved panel resolution.policy resolution.name world.cache)
  (reliable : Reliable collaborators panel world.files resolution filed)
  (named : request.name = resolution.name)
include settled reliable named

/-- A step of a request to reliable collaborators brings it further. -/
theorem Stage.Reached.stepped {stage : Stage} {current : World}
    (reached : stage.Reached panel resolution filed world current) :
    (advance collaborators request stage current).1.1.Reached panel resolution filed world
      (advance collaborators request stage current).2 := by
  cases stage with
  | policy =>
    obtain ⟨warnings, rfl⟩ := reached
    obtain ⟨decided, still⟩ := reliable.policy { world with warnings := warnings } rfl
    change (afterPolicy request _).1.Reached panel resolution filed world
      (collaborators.policy { world with warnings := warnings }).2
    rw [afterPolicy_fst, decided, still]
    exact ⟨rfl, warnings, rfl⟩
  | lookup decision =>
    obtain ⟨rfl, warnings, rfl⟩ := reached
    change (afterLookup request _ (collaborators.lookup request.name _).1).1.Reached panel
      resolution filed world (collaborators.lookup request.name { world with warnings := warnings }).2
    rw [named, reliable.lookup, afterLookup_fst]
    cases found : world.cache.find? resolution.name with
    | some answer =>
      rw [resolved, found] at settled
      refine ⟨?_, warnings, ?_⟩
      · rw [resolutionOf, named]
        exact settled.symm
      · rw [cacheAfter, found]
    | none => exact ⟨rfl, found, warnings, rfl⟩
  | query decision =>
    obtain ⟨rfl, missing, warnings, rfl⟩ := reached
    obtain ⟨replied, still⟩ := reliable.query { world with
      cache := (world.cache.get resolution.name).2, warnings := warnings }
    change (afterQuery request _ (collaborators.query request.name _).1).1.Reached panel
      resolution filed world (collaborators.query request.name { world with
        cache := (world.cache.get resolution.name).2, warnings := warnings }).2
    rw [named, still, afterQuery_fst]
    obtain ⟨reply, delivered, given⟩ := Option.map_eq_some_iff.mp replied
    rw [delivered]
    exact ⟨rfl, given, missing, warnings, rfl⟩
  | fill decision answer =>
    obtain ⟨rfl, rfl, missing, warnings, rfl⟩ := reached
    rw [resolved, missing] at settled
    have filled := reliable.fill { world with
      cache := (world.cache.get resolution.name).2, warnings := warnings } (by rw [settled])
    change (afterFill request _ _ (collaborators.fill request.name _ _).1).1.Reached panel
      resolution filed world (collaborators.fill request.name panel.answer { world with
        cache := (world.cache.get resolution.name).2, warnings := warnings }).2
    rw [named, filled, afterFill_fst]
    refine ⟨?_, warnings, ?_⟩
    · rw [resolutionOf, named]
      exact settled.symm
    · rw [cacheAfter, missing]
  | submit other =>
    obtain ⟨rfl, warnings, rfl⟩ := reached
    change (afterSubmit request _ _).1.Reached panel other filed world
      (collaborators.submit other { world with
        cache := cacheAfter panel other.name world.cache, warnings := warnings }).2
    rw [afterSubmit_fst, reliable.submit]
    exact ⟨rfl, warnings, _, rfl⟩
  | finished outcome => exact reached

variable (request) in
/-- A request to reliable collaborators ends with its resolution, and leaves behind the cache that
comes of it and what handing it in leaves. -/
theorem run_of_reliable : ∃ before after, run collaborators World.warn request world =
    (.ok resolution, { filed { world with
      cache := cacheAfter panel resolution.name world.cache, warnings := before }
        with warnings := after }) := by
  obtain ⟨ended, before, after, left⟩ := run_preserves collaborators World.warn request
    (fun stage current => stage.Reached panel resolution filed world current)
    (fun stage current reached => reached.stepped settled reliable named)
    (fun stage warning current reached => reached.warned warning) world ⟨world.warnings, rfl⟩
  exact ⟨before, after, Prod.ext ended left⟩

end Steps

end GatedResolver.Resolver
