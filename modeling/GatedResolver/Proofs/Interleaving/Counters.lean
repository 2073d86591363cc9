import GatedResolver.Cache
import GatedResolver.Proofs.Interleaving.Run

/-!
# Calls that move the counters of a cache

A call first works on the entries and then moves one counter after the other, so other calls may
come between any two of its actions. The actions are those that `Cache.get` and `Cache.put` consist
of.

What holds in every state is said call by call (`figure_of_run`): each figure of the cache is the
number of calls that have been counted in it so far. Where no call is halfway through, a call has
been counted in all the figures that it belongs to or not been made at all, and the laws of the
counters follow.
-/

namespace GatedResolver.CacheCalls

open Interleaving (Run)

/-- What a call wants of the cache. -/
inductive Demand where
  | get (name : Name)
  | put (name : Name) (answer : Answer)
deriving DecidableEq

/-- A call with how far it has come. -/
inductive Call where
  /-- A lookup that was not made yet. -/
  | asking (name : Name)
  /-- A lookup that has looked at the entries and still has to be counted. -/
  | asked (name : Name) (found : Option Answer)
  /-- A lookup that is over. -/
  | answered (name : Name) (found : Option Answer)
  /-- A store that was not made yet. -/
  | storing (name : Name) (answer : Answer)
  /-- A store that has set its entry, which it still has to count. -/
  | inserted (name : Name) (answer : Answer) (replaced : Bool)
  /-- A store that took the place of an answer, which it still has to count. -/
  | replacing (name : Name) (answer : Answer)
  /-- A store that is over. -/
  | stored (name : Name) (answer : Answer) (replaced : Bool)
deriving DecidableEq

/-- A call that was not made yet. -/
def Demand.call : Demand → Call
  | .get name => .asking name
  | .put name answer => .storing name answer

namespace Call

/-- What a call was made for. -/
def demand : Call → Demand
  | .asking name | .asked name _ | .answered name _ => .get name
  | .storing name answer | .inserted name answer _ | .replacing name answer
  | .stored name answer _ => .put name answer

/-- The next action of a call, unless it is over. The first one works on the entries and learns
what they held for the name; the others move one counter each. -/
def act : Call → Cache → Option (Call × Cache)
  | .asking name, cache => some (.asked name (cache.find? name), cache)
  | .asked name found, cache => some (.answered name found, cache.countLookup found.isSome)
  | .answered _ _, _ => none
  | .storing name answer, cache =>
    some (.inserted name answer (cache.find? name).isSome, cache.insert name answer)
  | .inserted name answer replaced, cache =>
    some (if replaced then .replacing name answer else .stored name answer false,
      cache.countInsertion)
  | .replacing name answer, cache => some (.stored name answer true, cache.countOverwrite)
  | .stored _ _ _, _ => none

/-- A call that has worked on the entries and has not moved all its counters. -/
def isMidway : Call → Bool
  | .asked _ _ | .inserted _ _ _ | .replacing _ _ => true
  | _ => false

/-- A lookup that was made. -/
def isGet : Call → Bool
  | .asked _ _ | .answered _ _ => true
  | _ => false

/-- A store that was made. -/
def isPut : Call → Bool
  | .inserted _ _ _ | .replacing _ _ | .stored _ _ _ => true
  | _ => false

/-- A store that was made and found its name among the entries. -/
def isReplacement : Call → Bool
  | .inserted _ _ replaced | .stored _ _ replaced => replaced
  | .replacing _ _ => true
  | _ => false

end Call

/-- A cache and the calls that are made of it. -/
structure Scene where
  cache : Cache
  calls : List Call

/-- A cache that was never used, and calls that were not made yet. -/
def start (demands : List Demand) : Scene :=
  ⟨.empty, demands.map Demand.call⟩

/-- The action of a call: how the call stood before it and how it stands behind it. -/
structure Event where
  before : Call
  after : Call

/-- One action of any call. -/
inductive Step (scene : Scene) : Event → Scene → Prop where
  | acted {index : Nat} {call next : Call} {cache : Cache}
      (here : scene.calls[index]? = some call) (acts : call.act scene.cache = some (next, cache)) :
      Step scene ⟨call, next⟩ ⟨cache, scene.calls.set index next⟩

section Entries

/-- The answer that an event stores for a name. -/
def Event.storedFor? (name : Name) (event : Event) : Option Answer :=
  match event.before with
  | .storing other answer => if name = other then some answer else none
  | _ => none

/-- The answer of the last event that stored one for a name. -/
def lastStored? (name : Name) (events : List Event) : Option Answer :=
  events.reverse.findSome? (Event.storedFor? name)

/-- One more event is later than all others. -/
theorem lastStored?_concat (name : Name) (events : List Event) (event : Event) :
    lastStored? name (events ++ [event]) =
      (event.storedFor? name).or (lastStored? name events) := by
  simp only [lastStored?, List.reverse_append, List.reverse_singleton, List.singleton_append,
    List.findSome?_cons]
  cases event.storedFor? name <;> rfl

/-- An action changes what is found for a name only if it stores an answer for that name. -/
theorem find?_step {scene next : Scene} {event : Event} (step : Step scene event next)
    (name : Name) :
    next.cache.find? name = (event.storedFor? name).or (scene.cache.find? name) := by
  obtain ⟨-, acts⟩ := step
  next call after cache =>
  cases call with
  | asked other found =>
    cases acts
    exact Cache.find?_congr (Cache.entries_countLookup _ _) name
  | storing other answer =>
    cases acts
    simp only [Cache.find?_insert, Event.storedFor?]
    split <;> rfl
  | asking | inserted | replacing =>
    cases acts
    rfl
  | answered | stored => cases acts

/-- The entries hold for each name the answer that was stored last. -/
theorem find?_of_run {demands : List Demand} {events : List Event} {scene : Scene}
    (run : Run Step (start demands) events scene) (name : Name) :
    scene.cache.find? name = lastStored? name events := by
  induction run with
  | refl => rfl
  | step prior transition inductionHypothesis =>
    rw [find?_step transition, inductionHypothesis, lastStored?_concat]

end Entries

section Figures

/-- What is counted about a cache: the four counters, and its entries. -/
inductive Figure where
  | hits
  | misses
  | insertions
  | overwrites
  | entries

/-- What a figure of a cache is. -/
def Figure.of (cache : Cache) : Figure → Nat
  | .hits => cache.counters.hits
  | .misses => cache.counters.misses
  | .insertions => cache.counters.insertions
  | .overwrites => cache.counters.overwrites
  | .entries => cache.size

/-- Whether a call has been counted in a figure. -/
def Call.isCountedIn : Figure → Call → Bool
  | .hits, .answered _ found => found.isSome
  | .misses, .answered _ found => found.isNone
  | .insertions, .replacing _ _ | .insertions, .stored _ _ _ => true
  | .overwrites, .stored _ _ replaced => replaced
  | .entries, .inserted _ _ replaced | .entries, .stored _ _ replaced => !replaced
  | _, _ => false

/-- An action counts its call in a figure exactly when it makes the figure greater by one. -/
theorem figure_act (figure : Figure) {call next : Call} {cache changed : Cache}
    (acts : call.act cache = some (next, changed)) :
    figure.of changed + (call.isCountedIn figure).toNat =
      figure.of cache + (next.isCountedIn figure).toNat := by
  cases call with
  | asking name =>
    cases acts
    cases figure <;> rfl
  | asked name found =>
    cases acts
    cases figure <;> cases found <;> rfl
  | storing name answer =>
    cases acts
    cases figure with
    | entries =>
      have grown := Table.size_set cache.entries name answer
      simp only [Figure.of, Cache.size, Cache.insert, Call.isCountedIn, Cache.find?, grown]
      cases (cache.entries.find? name).isSome <;> rfl
    | _ => rfl
  | inserted name answer replaced =>
    cases acts
    cases figure <;> cases replaced <;> rfl
  | replacing name answer =>
    cases acts
    cases figure <;> rfl
  | answered | stored => cases acts

/-- One more item counts for one if it passes the test. -/
theorem countP_cons_toNat {α : Type} (test : α → Bool) (head : α) (rest : List α) :
    (head :: rest).countP test = rest.countP test + (test head).toNat := by
  rw [List.countP_cons]
  cases test head <;> rfl

/-- What setting an item of a list does to the number of items that pass a test. -/
theorem countP_set_add {α : Type} {items : List α} {index : Nat} {item : α} (test : α → Bool)
    (here : items[index]? = some item) (other : α) :
    (items.set index other).countP test + (test item).toNat =
      items.countP test + (test other).toNat := by
  induction items generalizing index with
  | nil => cases here
  | cons head rest inductionHypothesis =>
    cases index with
    | zero =>
      cases here
      rw [List.set_cons_zero, countP_cons_toNat, countP_cons_toNat]
      omega
    | succ index =>
      have counted := inductionHypothesis here
      rw [List.set_cons_succ, countP_cons_toNat, countP_cons_toNat]
      omega

/-- Each figure of the cache is the number of calls that have been counted in it. -/
theorem figure_of_run {demands : List Demand} {events : List Event} {scene : Scene}
    (run : Run Step (start demands) events scene) (figure : Figure) :
    figure.of scene.cache = scene.calls.countP (Call.isCountedIn figure) := by
  induction run with
  | refl =>
    have waiting : ∀ call ∈ demands.map Demand.call, ¬ Call.isCountedIn figure call = true := by
      intro call member
      obtain ⟨demand, -, rfl⟩ := List.mem_map.mp member
      cases demand <;> cases figure <;> simp [Demand.call, Call.isCountedIn]
    rw [start, List.countP_eq_zero.mpr waiting]
    cases figure <;> rfl
  | step prior transition inductionHypothesis =>
    obtain ⟨here, acts⟩ := transition
    next call after cache =>
    have moved := figure_act figure acts
    have recounted := countP_set_add (Call.isCountedIn figure) here after
    dsimp only at inductionHypothesis moved recounted ⊢
    omega

/-- Where each item passes as many of two tests as of a third, so do all items together. -/
theorem countP_add_countP {α : Type} {items : List α} {first second both : α → Bool}
    (agree : ∀ item ∈ items, (first item).toNat + (second item).toNat = (both item).toNat) :
    items.countP first + items.countP second = items.countP both := by
  induction items with
  | nil => rfl
  | cons head rest inductionHypothesis =>
    have counted := inductionHypothesis fun item member => agree item (.tail _ member)
    have one := agree head (.head _)
    rw [countP_cons_toNat, countP_cons_toNat, countP_cons_toNat]
    omega

end Figures

section Laws

variable {demands : List Demand} {events : List Event} {scene : Scene}

/-- A call keeps to what it was made for. -/
theorem demand_act {call next : Call} {cache changed : Cache}
    (acts : call.act cache = some (next, changed)) : next.demand = call.demand := by
  cases call with
  | inserted name answer replaced =>
    cases acts
    cases replaced <;> rfl
  | answered | stored => cases acts
  | _ =>
    cases acts
    rfl

/-- The calls of a scene are those that it started with. -/
theorem demands_of_run (run : Run Step (start demands) events scene) :
    scene.calls.map Call.demand = demands := by
  induction run with
  | refl =>
    have same : Call.demand ∘ Demand.call = id := funext fun demand => by cases demand <;> rfl
    rw [start, List.map_map, same, List.map_id]
  | step prior transition inductionHypothesis =>
    obtain ⟨here, acts⟩ := transition
    next index call after cache =>
    obtain ⟨inside, rfl⟩ := List.getElem?_eq_some_iff.mp here
    rw [List.map_set, demand_act acts, ← List.getElem_map Call.demand, List.set_getElem_self,
      inductionHypothesis]
    simpa using inside

/-- The first action of a lookup finds the answer that was stored last before it. -/
theorem asked_of_run {earlier later : List Event} {name : Name} {after : Call}
    (run : Run Step (start demands) (earlier ++ ⟨.asking name, after⟩ :: later) scene) :
    after = .asked name (lastStored? name earlier) := by
  obtain ⟨current, following, first, step, -⟩ := run.around
  cases step with
  | acted here acts =>
    cases acts
    rw [find?_of_run first]

/-- The first action of a store learns whether an answer was stored for its name before. -/
theorem inserted_of_run {earlier later : List Event} {name : Name} {answer : Answer}
    {after : Call}
    (run : Run Step (start demands) (earlier ++ ⟨.storing name answer, after⟩ :: later) scene) :
    after = .inserted name answer (lastStored? name earlier).isSome := by
  obtain ⟨current, following, first, step, -⟩ := run.around
  cases step with
  | acted here acts =>
    cases acts
    rw [find?_of_run first]

/-- A name has an answer exactly when one was stored for it. -/
theorem isSome_lastStored?_iff {name : Name} :
    (lastStored? name events).isSome = true ↔
      ∃ event ∈ events, ∃ answer, event.before = .storing name answer := by
  simp only [lastStored?, List.findSome?_isSome_iff, List.mem_reverse]
  refine exists_congr fun event => and_congr_right fun _ => ?_
  obtain ⟨before, after⟩ := event
  cases before with
  | storing other answer =>
    simp only [Event.storedFor?, Call.storing.injEq]
    split
    · next same => simp [same]
    · next different => simp [Ne.symm different]
  | _ => simp [Event.storedFor?]

/-- One action after those of a run. The call stands where it stood. -/
theorem run_acted {calls : List Call} {index : Nat} {call next : Call} {cache changed : Cache}
    (run : Run Step scene events ⟨cache, calls.set index call⟩) (inside : index < calls.length)
    (acts : call.act cache = some (next, changed)) :
    Run Step scene (events ++ [⟨call, next⟩]) ⟨changed, calls.set index next⟩ := by
  have here : (calls.set index call)[index]? = some call := List.getElem?_set_self inside
  have acted := run.step (.acted here acts)
  rwa [List.set_set] at acted

/-- A scene in which a call is set to what it is already. -/
theorem run_refl_set {index : Nat} {call : Call} (here : scene.calls[index]? = some call) :
    Run Step scene [] ⟨scene.cache, scene.calls.set index call⟩ := by
  obtain ⟨inside, rfl⟩ := List.getElem?_eq_some_iff.mp here
  rw [List.set_getElem_self]
  exact .refl

/-- A lookup that nothing comes between is the operation of the cache. -/
theorem run_get {index : Nat} {name : Name}
    (here : scene.calls[index]? = some (.asking name)) :
    ∃ alone, Run Step scene alone ⟨(scene.cache.get name).2,
      scene.calls.set index (.answered name (scene.cache.get name).1)⟩ := by
  have inside := (List.getElem?_eq_some_iff.mp here).1
  have asked := run_acted (run_refl_set here) inside rfl
  exact ⟨_, run_acted asked inside rfl⟩

/-- A store that nothing comes between is the operation of the cache. -/
theorem run_put {index : Nat} {name : Name} {answer : Answer}
    (here : scene.calls[index]? = some (.storing name answer)) :
    ∃ alone, Run Step scene alone ⟨scene.cache.put name answer,
      scene.calls.set index (.stored name answer (scene.cache.find? name).isSome)⟩ := by
  have inside := (List.getElem?_eq_some_iff.mp here).1
  have inserted := run_acted (run_refl_set here) inside rfl
  have counted := run_acted inserted inside rfl
  rw [Cache.put]
  cases known : (scene.cache.find? name).isSome with
  | false =>
    rw [known] at counted
    exact ⟨_, counted⟩
  | true =>
    rw [known] at counted
    exact ⟨_, run_acted counted inside rfl⟩

/-- No store is counted as an overwrite before it was counted as an insertion. -/
theorem overwrites_le_insertions (run : Run Step (start demands) events scene) :
    scene.cache.counters.overwrites ≤ scene.cache.counters.insertions := by
  have overwrites := figure_of_run run .overwrites
  have insertions := figure_of_run run .insertions
  simp only [Figure.of] at overwrites insertions
  rw [overwrites, insertions]
  refine List.countP_mono_left fun call _ counted => ?_
  cases call with
  | stored => rfl
  | _ => cases counted

/-- The counters are sums over the calls that were made if none is halfway through. -/
theorem sums_of_quiet (run : Run Step (start demands) events scene)
    (quiet : ∀ call ∈ scene.calls, call.isMidway = false) :
    let counters := scene.cache.counters
    counters.hits + counters.misses = scene.calls.countP Call.isGet ∧
    counters.insertions = scene.calls.countP Call.isPut ∧
    scene.cache.size + counters.overwrites = counters.insertions ∧
    counters.overwrites = scene.calls.countP Call.isReplacement := by
  intro counters
  have figures := figure_of_run run
  refine ⟨?lookups, ?insertions, ?entries, ?overwrites⟩
  case lookups =>
    refine (congrArg₂ _ (figures .hits) (figures .misses)).trans (countP_add_countP ?_)
    intro call member
    have finished := quiet call member
    cases call with
    | answered name found => cases found <;> rfl
    | asked => cases finished
    | _ => rfl
  case insertions =>
    refine (figures .insertions).trans (List.countP_congr ?_)
    intro call member
    have finished := quiet call member
    cases call with
    | inserted => cases finished
    | _ => rfl
  case entries =>
    refine (congrArg₂ _ (figures .entries) (figures .overwrites)).trans
      ((countP_add_countP ?_).trans (figures .insertions).symm)
    intro call member
    have finished := quiet call member
    cases call with
    | stored name answer replaced => cases replaced <;> rfl
    | inserted | replacing => cases finished
    | _ => rfl
  case overwrites =>
    refine (figures .overwrites).trans (List.countP_congr ?_)
    intro call member
    have finished := quiet call member
    cases call with
    | inserted | replacing => cases finished
    | _ => rfl

end Laws

/-- The laws of the counters for calls that are made at the same time, after any run of their
actions. The calls are the ones demanded. The first action of each works on the entries as the
stores before it left them, and a call that nothing comes between does what the operation of the
cache does. Never are there more overwrites than insertions. The cache has for each name the
answer that was stored last, and no name is lost. And where no call is halfway through, hits and
misses are the lookups made, insertions the stores made, insertions without overwrites the
entries, and overwrites the stores that found an answer for their name. -/
theorem counter_laws {demands : List Demand} {events : List Event} {scene : Scene}
    (run : Run Step (start demands) events scene) :
    let cache := scene.cache
    let counters := cache.counters
    scene.calls.map Call.demand = demands ∧
    (∀ earlier later name after, events = earlier ++ ⟨.asking name, after⟩ :: later →
      after = .asked name (lastStored? name earlier)) ∧
    (∀ earlier later name answer after,
      events = earlier ++ ⟨.storing name answer, after⟩ :: later →
        after = .inserted name answer (lastStored? name earlier).isSome) ∧
    (∀ (index : Nat) (name : Name), scene.calls[index]? = some (.asking name) →
      ∃ alone, Run Step scene alone ⟨(cache.get name).2,
        scene.calls.set index (.answered name (cache.get name).1)⟩) ∧
    (∀ (index : Nat) (name : Name) (answer : Answer),
      scene.calls[index]? = some (.storing name answer) →
        ∃ alone, Run Step scene alone ⟨cache.put name answer,
          scene.calls.set index (.stored name answer (cache.find? name).isSome)⟩) ∧
    counters.overwrites ≤ counters.insertions ∧
    (∀ name, cache.find? name = lastStored? name events) ∧
    (∀ name, (cache.find? name).isSome = true ↔
      ∃ event ∈ events, ∃ answer, event.before = .storing name answer) ∧
    ((∀ call ∈ scene.calls, call.isMidway = false) →
      counters.hits + counters.misses = scene.calls.countP Call.isGet ∧
      counters.insertions = scene.calls.countP Call.isPut ∧
      counters.insertions - counters.overwrites = cache.size ∧
      counters.overwrites = scene.calls.countP Call.isReplacement) := by
  intro cache counters
  refine ⟨demands_of_run run, ?asked, ?inserted, fun index name => run_get,
    fun index name answer => run_put, overwrites_le_insertions run, find?_of_run run, ?kept,
    ?quiet⟩
  case asked =>
    rintro earlier later name after rfl
    exact asked_of_run run
  case inserted =>
    rintro earlier later name answer after rfl
    exact inserted_of_run run
  case kept =>
    intro name
    rw [find?_of_run run]
    exact isSome_lastStored?_iff
  case quiet =>
    intro quiet
    obtain ⟨lookups, insertions, entries, overwrites⟩ := sums_of_quiet run quiet
    exact ⟨lookups, insertions, Nat.sub_eq_of_eq_add entries.symm, overwrites⟩

/-- Two stores for one name and a lookup of it overlap: the lookup and both stores work on the
entries before anything is counted. -/
theorem counter_laws_overlapping :
    let name : Name := ⟨"example.com", by decide⟩
    let first : Answer := ⟨"A", 60, "203.0.113.10"⟩
    let second : Answer := ⟨"A", 60, "203.0.113.20"⟩
    ∃ events scene,
      Run Step (start [.put name first, .put name second, .get name]) events scene ∧
      (∀ call ∈ scene.calls, call.isMidway = false) ∧
      scene.cache.find? name = some second ∧
      scene.cache.counters.hits + scene.cache.counters.misses = 1 ∧
      scene.cache.counters.insertions = 2 ∧
      scene.cache.counters.overwrites = 1 ∧
      scene.cache.counters.insertions - scene.cache.counters.overwrites = scene.cache.size := by
  intro name first second
  have waiting : Run Step (start [.put name first, .put name second, .get name]) [] _ := .refl
  have firstPut := waiting.step (@Step.acted _ 0 _ _ _ rfl rfl)
  have secondPut := firstPut.step (@Step.acted _ 1 _ _ _ rfl rfl)
  have looked := secondPut.step (@Step.acted _ 2 _ _ _ rfl rfl)
  have secondCounted := looked.step (@Step.acted _ 1 _ _ _ rfl rfl)
  have lookCounted := secondCounted.step (@Step.acted _ 2 _ _ _ rfl rfl)
  have overwriteCounted := lookCounted.step (@Step.acted _ 1 _ _ _ rfl rfl)
  have firstCounted := overwriteCounted.step (@Step.acted _ 0 _ _ _ rfl rfl)
  obtain ⟨-, -, -, -, -, -, last, -, sums⟩ := counter_laws firstCounted
  have quiet : ∀ call ∈ [Call.stored name first false, .stored name second true,
      .answered name (some second)], call.isMidway = false := by decide
  obtain ⟨lookups, insertions, entries, overwrites⟩ := sums quiet
  exact ⟨_, _, firstCounted, quiet, last name, lookups, insertions, overwrites, entries⟩

end GatedResolver.CacheCalls
