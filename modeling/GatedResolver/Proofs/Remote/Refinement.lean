import GatedResolver.Proofs.Remote.Pipelines

/-!
# Distributed resolvers are like those in one process

A resolver goes through a history of moves: time passes, in which its files may become others,
and names are resolved one after another. A distributed resolver comes to the same outcomes as
one in a single process, and after every move their worlds are `Alike`: the caches are the same,
counters included, and the receipts in memory are about the same records. This takes that each
resolution gets through to the remote services, and that no two receipts get one id.
-/

namespace GatedResolver

open Resolver (cacheAfter decisionIn resolved)

/-- What a resolver meets. -/
inductive Move where
  /-- Seconds pass, after which the files are these. -/
  | passed (files : FileSystem) (seconds : Int64)
  /-- A name is resolved. -/
  | asked (name : Name)

namespace Move

/-- The name that is resolved. -/
def name? : Move → Option Name
  | .passed _ _ => none
  | .asked name => some name

/-- Make a move. There is an outcome if a name is resolved. -/
def perform (resolve : Name → StateM World Resolver.Outcome) (world : World) :
    Move → Option Resolver.Outcome × World
  | .passed files seconds => (none, { world with files := files, clock := world.clock + seconds })
  | .asked name => (some (resolve name world).1, (resolve name world).2)

/-- Make moves one after another. Each has its outcome, and the world after it. -/
def history (resolve : Name → StateM World Resolver.Outcome) (world : World) :
    List Move → List (Option Resolver.Outcome × World)
  | [] => []
  | move :: rest =>
    move.perform resolve world :: history resolve (move.perform resolve world).2 rest

end Move

/-- The records of the receipts in memory. -/
def World.records (world : World) : List Json.Value :=
  world.memory.entries.map fun entry => entry.2.payload.record

/-- Two worlds are alike: they have the same files and the same cache, and receipts for the same
records. Ids, times and signatures may differ. -/
structure World.Alike (near far : World) : Prop where
  files : near.files = far.files
  cache : near.cache = far.cache
  records : near.records.Perm far.records

/-- Two resolvers agree on moves: they come to the same outcomes, and their worlds are alike after
each move. -/
def Agree (nearResolve farResolve : Name → StateM World Resolver.Outcome) (near far : World)
    (moves : List Move) : Prop :=
  List.Forall₂ (fun near far => near.1 = far.1 ∧ near.2.Alike far.2)
    (Move.history nearResolve near moves) (Move.history farResolve far moves)

/-- The receipts in memory have ids that were drawn, and neither these nor so many coming ones
repeat. -/
structure World.Ready (world : World) (coming : Nat) : Prop where
  drawn : ∀ entry ∈ world.memory.entries, ∃ number, number < world.drawn ∧
    entry.1 = Receipt.idOf (world.entropy number)
  fresh : Filing.Fresh { world with drawn := world.drawn + coming }

/-- Each resolution that moves come to gets through to the remote services. -/
def Addresses.CarryAll (addresses : Addresses) (panel : Quorum.Panel) (file : String) :
    FileSystem → Cache → List Move → Prop
  | _, _, [] => True
  | _, cache, .passed files _ :: rest => CarryAll addresses panel file files cache rest
  | files, cache, .asked name :: rest =>
    addresses.Carry (resolved panel (decisionIn files file) name cache) ∧
      CarryAll addresses panel file files (cacheAfter panel name cache) rest

section Filing

variable (key : Receipt.Key) (resolution : Resolution) {world : World} {coming : Nat}

/-- The id of the next receipt is new. -/
theorem World.Ready.unknown (ready : world.Ready (coming + 1)) :
    ∀ entry ∈ world.memory.entries, entry.1 ≠ Receipt.idOf (world.entropy world.drawn) := by
  intro entry member same
  obtain ⟨number, earlier, id⟩ := ready.drawn entry member
  have coming : world.drawn < world.drawn + (coming + 1) := by omega
  exact ready.fresh number world.drawn earlier coming (id.symm.trans same)

/-- A resolution that is filed adds its receipt to those in memory. -/
theorem World.Ready.entries_filedBy (ready : world.Ready (coming + 1)) :
    ∃ receipt : Receipt.Signed, receipt.payload.record = Filing.recordOf resolution ∧
      (filedBy key resolution world).memory.entries =
        world.memory.entries ++ [(Receipt.idOf (world.entropy world.drawn), receipt)] :=
  ⟨_, rfl, Table.entries_set_of_unknown ready.unknown _⟩

/-- When a resolution is filed, one receipt less is to come. -/
theorem World.Ready.filedBy (ready : world.Ready (coming + 1)) :
    (filedBy key resolution world).Ready coming := by
  obtain ⟨receipt, -, added⟩ := ready.entries_filedBy key resolution
  refine ⟨?_, ?_⟩
  · intro entry member
    rw [added] at member
    rcases List.mem_append.mp member with old | new
    · obtain ⟨number, earlier, id⟩ := ready.drawn entry old
      exact ⟨number, Nat.lt_succ_of_lt earlier, id⟩
    · rw [List.mem_singleton.mp new]
      exact ⟨world.drawn, Nat.lt_succ_self _, rfl⟩
  · intro first second earlier drawn
    refine ready.fresh first second earlier ?_
    simp only [GatedResolver.filedBy, Receipt.Signer.submit, Filing.signer, World.stamp,
      World.memoryLedger] at drawn ⊢
    omega

/-- What is ready for some receipts is ready for fewer. -/
theorem World.Ready.fewer (ready : world.Ready (coming + 1)) : world.Ready coming := by
  refine ⟨ready.drawn, fun first second earlier drawn => ready.fresh first second earlier ?_⟩
  change second < world.drawn + coming at drawn
  change second < world.drawn + (coming + 1)
  omega

end Filing

/-- What a resolution leaves behind. -/
structure World.Settled (panel : Quorum.Panel) (resolution : Resolution) (coming : Nat)
    (world after : World) : Prop where
  files : after.files = world.files
  cache : after.cache = cacheAfter panel resolution.name world.cache
  records : after.records = world.records ++ [Filing.recordOf resolution]
  ready : after.Ready coming

/-- Names are resolved to what the cache, the panel and the policy file say, as far as their
resolutions are of some kind. -/
def Resolves (resolve : Name → StateM World Resolver.Outcome) (panel : Quorum.Panel)
    (file : String) (kind : Resolution → Prop) : Prop :=
  ∀ name world coming, world.Ready (coming + 1) →
    kind (resolved panel (decisionIn world.files file) name world.cache) →
    ∃ after, resolve name world =
        (.ok (resolved panel (decisionIn world.files file) name world.cache), after) ∧
      world.Settled panel (resolved panel (decisionIn world.files file) name world.cache) coming
        after

/-- A resolution is about the name that was asked for. -/
theorem Resolver.name_resolved (panel : Quorum.Panel) (policy : Policy.Decision) (name : Name)
    (cache : Cache) : (resolved panel policy name cache).name = name := by
  unfold resolved
  split <;> rfl

/-- A resolution has the decision that it was made under. -/
theorem Resolver.policy_resolved (panel : Quorum.Panel) (policy : Policy.Decision) (name : Name)
    (cache : Cache) : (resolved panel policy name cache).policy = policy := by
  unfold resolved
  split <;> rfl

section Resolvers

variable {components : Components} {key : Receipt.Key} {settings : ResolverSettings}
  {transport : Components.Transport}

/-- Reliable collaborators resolve names. -/
theorem resolves_of_reliable (key : Receipt.Key)
    {collaborators : Resolver.Collaborators (StateM World)} {kind : Resolution → Prop}
    (reliable : ∀ files resolution, resolution.policy = decisionIn files components.policyFile →
      kind resolution → Resolver.Reliable collaborators components.panel files resolution
        (filedBy key resolution)) (limitMs : Nat) :
    Resolves (fun name => Resolver.run collaborators World.warn ⟨name, limitMs⟩) components.panel
      components.policyFile kind := by
  intro name world coming ready allowed
  obtain ⟨resolution, made⟩ : ∃ resolution, resolution =
    resolved components.panel (decisionIn world.files components.policyFile) name world.cache :=
    ⟨_, rfl⟩
  rw [← made] at allowed ⊢
  have named : resolution.name = name := made ▸ Resolver.name_resolved _ _ _ _
  have decided : resolution.policy = decisionIn world.files components.policyFile :=
    made ▸ Resolver.policy_resolved _ _ _ _
  have settled : resolution =
      resolved components.panel resolution.policy resolution.name world.cache := by
    rw [named, decided]
    exact made
  obtain ⟨before, after, ends⟩ := Resolver.run_of_reliable
    ⟨name, limitMs⟩ settled (reliable world.files resolution decided allowed) named.symm
  have readyThen : World.Ready { world with
      cache := cacheAfter components.panel resolution.name world.cache
      warnings := before } (coming + 1) := ⟨ready.drawn, ready.fresh⟩
  obtain ⟨receipt, record, added⟩ := readyThen.entries_filedBy key resolution
  refine ⟨_, ends, ⟨rfl, rfl, ?_, ?_⟩⟩
  · rw [← record]
    exact (congrArg (List.map _) added).trans List.map_append
  · obtain ⟨drawn, fresh⟩ := readyThen.filedBy key resolution
    exact ⟨drawn, fresh⟩

/-- A resolver in one process resolves all names. -/
theorem InProcess.resolves (inProcess : InProcess components key settings)
    (transport : Components.Transport) :
    ∃ resolve, components.resolver settings transport = .ok resolve ∧
      Resolves resolve components.panel components.policyFile fun _ => True := by
  obtain ⟨collaborators, wired⟩ := inProcess.wired transport
  refine ⟨_, congrArg (Except.map _) wired, resolves_of_reliable key ?_ _⟩
  intro files resolution decided _
  exact inProcess.reliable wired decided

/-- A distributed resolver resolves names, as far as their resolutions get through. -/
theorem Distributed.resolves {addresses : Addresses}
    (distributed : Distributed components key addresses settings transport) :
    ∃ resolve, components.resolver settings transport = .ok resolve ∧
      Resolves resolve components.panel components.policyFile addresses.Carry := by
  obtain ⟨collaborators, wired⟩ := distributed.wired
  refine ⟨_, congrArg (Except.map _) wired, resolves_of_reliable key ?_ _⟩
  intro files resolution decided carried
  exact distributed.reliable wired decided carried

end Resolvers

section Histories

variable {nearResolve farResolve : Name → StateM World Resolver.Outcome} {panel : Quorum.Panel}
  {file : String} {kind : Resolution → Prop}

/-- Two resolvers that ask the same panel and read the same policy file come to the same outcome for
a name in worlds that are alike, and leave worlds that are alike. -/
theorem Resolves.alike {near far : World} {nearComing farComing : Nat}
    (resolvesNear : Resolves nearResolve panel file fun _ => True)
    (resolvesFar : Resolves farResolve panel file kind) (alike : near.Alike far)
    (nearReady : near.Ready (nearComing + 1)) (farReady : far.Ready (farComing + 1)) (name : Name)
    (allowed : kind (resolved panel (decisionIn far.files file) name far.cache)) :
    (nearResolve name near).1 = (farResolve name far).1 ∧
      (nearResolve name near).2.Alike (farResolve name far).2 ∧
      near.Settled panel (resolved panel (decisionIn far.files file) name far.cache) nearComing
        (nearResolve name near).2 ∧
      far.Settled panel (resolved panel (decisionIn far.files file) name far.cache) farComing
        (farResolve name far).2 := by
  obtain ⟨nearAfter, nearEnds, nearSettled⟩ := resolvesNear name near nearComing nearReady trivial
  obtain ⟨farAfter, farEnds, farSettled⟩ := resolvesFar name far farComing farReady allowed
  rw [alike.files, alike.cache] at nearEnds nearSettled
  rw [nearEnds, farEnds]
  refine ⟨rfl, ⟨?_, ?_, ?_⟩, nearSettled, farSettled⟩
  · rw [nearSettled.files, farSettled.files, alike.files]
  · rw [nearSettled.cache, farSettled.cache, alike.cache]
  · rw [nearSettled.records, farSettled.records]
    exact alike.records.append_right _

/-- Resolvers agree on moves in worlds that are alike, if one resolves all names and the other one
those whose resolutions get through. -/
theorem Resolves.agree {addresses : Addresses}
    (resolvesNear : Resolves nearResolve panel file fun _ => True)
    (resolvesFar : Resolves farResolve panel file addresses.Carry) {near far : World}
    {moves : List Move} (alike : near.Alike far)
    (nearReady : near.Ready (moves.filterMap Move.name?).length)
    (farReady : far.Ready (moves.filterMap Move.name?).length)
    (carried : addresses.CarryAll panel file far.files far.cache moves) :
    Agree nearResolve farResolve near far moves := by
  induction moves generalizing near far with
  | nil => exact .nil
  | cons move rest inductionHypothesis =>
    cases move with
    | passed files seconds =>
      have alikeThen : World.Alike { near with files := files, clock := near.clock + seconds }
          { far with files := files, clock := far.clock + seconds } :=
        ⟨rfl, alike.cache, alike.records⟩
      exact .cons ⟨rfl, alikeThen⟩ (inductionHypothesis alikeThen
        ⟨nearReady.drawn, nearReady.fresh⟩ ⟨farReady.drawn, farReady.fresh⟩ carried)
    | asked name =>
      obtain ⟨carry, carriedThen⟩ := carried
      obtain ⟨same, alikeThen, nearSettled, farSettled⟩ :=
        resolvesNear.alike resolvesFar alike nearReady farReady name carry
      refine .cons ⟨congrArg some same, alikeThen⟩
        (inductionHypothesis alikeThen nearSettled.ready farSettled.ready ?_)
      change addresses.CarryAll panel file (farResolve name far).2.files (farResolve name far).2.cache
        rest
      rw [farSettled.files, farSettled.cache, Resolver.name_resolved]
      exact carriedThen

end Histories

end GatedResolver
