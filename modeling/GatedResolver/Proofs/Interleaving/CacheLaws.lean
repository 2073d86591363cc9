import GatedResolver.Proofs.Deployment.Built
import GatedResolver.Proofs.Deployment.Calls
import GatedResolver.Proofs.Interleaving.SharedCache

/-!
# The laws of a shared cache

Where the entries of the cache come from, that they stay, and that a request which asks the
cache late enough is answered out of it. A resolver that shares the cache makes one of the
runs that these laws are about (`run_of_resolve`), so they hold of requests that are resolved
one after another as well. Resolvers share the cache of the process that they were built for
(`shares_of_built`), and clients write to it through its site (`cacheSite_respond_post`).
-/

namespace GatedResolver.SharedCache

open Interleaving (Run)
open Resolver (Call CallEnding Collaborators Contact Course Outcome Stage resolutionOf)

section Laws

variable {events : List Event} {scene : Scene}

/-- The cache replies to a lookup with what is found at that time. -/
theorem lookup_of_run {before after : List Event} {index : Nat} {name : Name}
    {ending : CallEnding}
    (run : Run Step start (before ++ .called index (.lookup name, ending) :: after) scene) :
    ∃ middle, Run Step start before middle ∧
      ending = .lookup (.replied (middle.cache.find? name)) := by
  obtain ⟨middle, next, first, step, -⟩ := run.around
  cases step with
  | called here due served leads =>
    cases served
    exact ⟨middle, first, rfl⟩

/-- Behind a session that finished with a resolution there is a write for its name, be it its
own or one that it found in the cache. -/
theorem exists_write_of_ok (run : Run Step start events scene) {index : Nat} {session : Session}
    {resolution : Resolution} (here : scene.sessions[index]? = some session)
    (ended : session.stage = .finished (.ok resolution)) :
    ∃ event ∈ events, ∃ answer, event.write? = some (session.request.name, answer) := by
  have course := (tracked_of_run run).course here
  rw [ended] at course
  rcases course.answer_of_ok with cached | ⟨ending, filled⟩
  · obtain ⟨before, after, rfl⟩ := List.append_of_mem (mem_ownContacts_iff.mp cached)
    obtain ⟨middle, first, replied⟩ := lookup_of_run run
    simp only [CallEnding.lookup.injEq, Resolver.Ending.replied.injEq] at replied
    rw [find?_of_run first] at replied
    obtain ⟨event, member, wrote⟩ := exists_write_of_lastWritten? replied.symm
    exact ⟨event, List.mem_append_left _ member, resolution.answer, wrote⟩
  · exact ⟨_, mem_ownContacts_iff.mp filled, resolution.answer, rfl⟩

/-- Every answer in the cache was stored from outside, or the quorum replied it to a question
about that same name. -/
theorem provenance (run : Run Step start events scene) {name : Name} {answer : Answer}
    (known : scene.cache.find? name = some answer) :
    (∃ body, .posted body ∈ events ∧ stored? body = some (name, answer)) ∨
      ∃ index reply, .called index (.query name, .query (.replied reply)) ∈ events ∧
        reply.answer = answer := by
  rw [find?_of_run run] at known
  obtain ⟨event, member, wrote⟩ := exists_write_of_lastWritten? known
  cases event with
  | began request => cases wrote
  | posted body => exact .inl ⟨body, member, wrote⟩
  | counted counters => cases wrote
  | called index contact =>
    obtain ⟨call, ending⟩ := contact
    cases call <;> cases wrote
    have tracked := tracked_of_run run
    obtain ⟨session, here⟩ := tracked.session_of_called member
    obtain ⟨reply, asked, replied⟩ :=
      (tracked.course here).query_of_fill (mem_ownContacts_iff.mpr member)
    exact .inr ⟨index, reply, mem_ownContacts_iff.mp asked, replied⟩

/-- A name that has an answer keeps having one. -/
theorem persistence {final : Scene} (run : Run Step scene events final) {name : Name}
    (known : (scene.cache.find? name).isSome = true) :
    (final.cache.find? name).isSome = true := by
  rw [find?_of_steps run]
  simp [known]

/-- A resolution out of the cache has the answer that the cache had for its name when the
request asked. -/
theorem cached_at_lookup (run : Run Step start events scene) {index : Nat} {session : Session}
    {resolution : Resolution} (here : scene.sessions[index]? = some session)
    (ended : session.stage = .finished (.ok resolution))
    (cached : resolution.origin = some .cache) :
    resolution.name = session.request.name ∧
      ∃ before after middle,
        events = before ++ .called index (.lookup resolution.name,
          .lookup (.replied (some resolution.answer))) :: after ∧
        Run Step start before middle ∧
        middle.cache.find? resolution.name = some resolution.answer := by
  have course := (tracked_of_run run).course here
  rw [ended] at course
  obtain ⟨named, replied⟩ := course.lookup_of_cache cached
  obtain ⟨before, after, rfl⟩ := List.append_of_mem (mem_ownContacts_iff.mp replied)
  obtain ⟨middle, first, found⟩ := lookup_of_run run
  simp only [CallEnding.lookup.injEq, Resolver.Ending.replied.injEq] at found
  rw [named]
  exact ⟨rfl, before, after, middle, rfl, first, found.symm⟩

/-- A request whose lookup comes after a write for its name never comes to ask the quorum and
never fails. -/
theorem cache_first (run : Run Step start events scene) {before after : List Event}
    {index : Nat} {session : Session} {name : Name} {ending : CallEnding}
    (parted : events = before ++ .called index (.lookup name, ending) :: after)
    (here : scene.sessions[index]? = some session) {event : Event} {answer : Answer}
    (earlier : event ∈ before) (wrote : event.write? = some (name, answer)) :
    (∀ other reply, .called index (.query other, reply) ∉ events) ∧
      (∀ decision, session.stage ≠ .query decision) ∧
      ∀ failure, session.stage ≠ .finished (.error failure) := by
  have course := (tracked_of_run run).course here
  obtain ⟨known, last⟩ := Option.isSome_iff_exists.mp (isSome_lastWritten? earlier wrote)
  have cached : (.lookup name, .lookup (.replied (some known))) ∈ ownContacts index events := by
    subst parted
    obtain ⟨middle, first, rfl⟩ := lookup_of_run run
    rw [find?_of_run first, last, mem_ownContacts_iff]
    simp
  refine ⟨?_, ?_, ?_⟩
  · intro other reply asked
    exact course.not_query_of_cached cached (mem_ownContacts_iff.mpr asked)
  · intro decision atQuery
    rw [atQuery] at course
    exact course.not_at_query_of_cached cached
  · intro failure failed
    rw [failed] at course
    obtain ⟨decision, ended⟩ := course.ok_of_cached cached
    cases ended

end Laws

section Resolvers

variable {State : Type} {cacheOf : State → Cache} {collaborators : Collaborators (StateM State)}

/-- Collaborators that work on a cache in their state: lookups and fills are operations on its
entries, and all other calls leave the entries alone. -/
structure Shares (cacheOf : State → Cache) (collaborators : Collaborators (StateM State)) :
    Prop where
  policy : ∀ state, (cacheOf (collaborators.policy state).2).entries = (cacheOf state).entries
  replied : ∀ name state,
    (collaborators.lookup name state).1 = .replied ((cacheOf state).find? name)
  lookup : ∀ name state,
    (cacheOf (collaborators.lookup name state).2).entries = (cacheOf state).entries
  query : ∀ name state,
    (cacheOf (collaborators.query name state).2).entries = (cacheOf state).entries
  filled : ∀ name answer state, (collaborators.fill name answer state).1 = .replied ()
  fill : ∀ name answer state, (cacheOf (collaborators.fill name answer state).2).entries =
    ((cacheOf state).insert name answer).entries
  submit : ∀ resolution state,
    (cacheOf (collaborators.submit resolution state).2).entries = (cacheOf state).entries

/-- Such collaborators serve each call of a request. -/
theorem Shares.served (shares : Shares cacheOf collaborators) {request : Resolver.Request}
    {stage : Stage} {state : State} {ending : CallEnding}
    (ended : (collaborators.call request stage state).1 = some ending) :
    ∃ call cache, stage.call? request = some call ∧
      Served (cacheOf state) call ending cache ∧
      (cacheOf (collaborators.call request stage state).2).entries = cache.entries := by
  cases stage with
  | policy =>
    cases ended
    exact ⟨_, _, rfl, .policy _, shares.policy state⟩
  | lookup decision =>
    cases ended
    refine ⟨_, _, rfl, ?_, shares.lookup request.name state⟩
    rw [shares.replied]
    exact .lookup request.name
  | query decision =>
    cases ended
    exact ⟨_, _, rfl, .query request.name _, shares.query request.name state⟩
  | fill decision answer =>
    cases ended
    refine ⟨_, _, rfl, ?_, shares.fill request.name answer state⟩
    rw [shares.filled]
    exact .fill request.name answer
  | submit resolution =>
    cases ended
    exact ⟨_, _, rfl, .submit resolution _, shares.submit resolution state⟩
  | finished outcome => cases ended

/-- Putting the counters right brings a scene to the cache that was really left. -/
theorem run_of_entries {scene next : Scene} {events : List Event} {cache : Cache}
    (run : Run Step scene events next) (same : cache.entries = next.cache.entries) :
    ∃ later, Run Step scene later ⟨cache, next.sessions⟩ := by
  have counted := run.step (.counted cache.counters)
  rw [← same] at counted
  exact ⟨_, counted⟩

variable {warn : Warning → StateM State Unit}

/-- A request that is resolved without a pause takes the steps of a run, at whose end it has
finished with its outcome. -/
theorem run_of_resolve (shares : Shares cacheOf collaborators)
    (quiet : ∀ warning state, cacheOf (warn warning state).2 = cacheOf state)
    (request : Resolver.Request) (sessions : List Session) (state : State) :
    ∃ later, Run Step ⟨cacheOf state, sessions⟩ later
      ⟨cacheOf (Resolver.run collaborators warn request state).2,
        sessions ++ [⟨request, .finished (Resolver.run collaborators warn request state).1⟩]⟩ := by
  let Reached (stage : Stage) (current : State) : Prop := ∃ later,
    Run Step ⟨cacheOf state, sessions⟩ later ⟨cacheOf current, sessions ++ [⟨request, stage⟩]⟩
  have began : Reached .policy state :=
    ⟨[] ++ [.began request], .step .refl (.began request)⟩
  refine Resolver.run_preserves collaborators warn request Reached ?_ ?_ state began
  · rintro stage current ⟨later, run⟩
    by_cases unfinished : 0 < stage.callsLeft
    · obtain ⟨ending, ended, leads, left⟩ :=
        Resolver.advance_of_unfinished collaborators request stage unfinished current
      obtain ⟨call, cache, due, served, entries⟩ := shares.served ended
      have here : (sessions ++ [⟨request, stage⟩])[sessions.length]? =
          some (⟨request, stage⟩ : Session) := by simp
      have called := run.step (.called here due served leads)
      rw [List.set_append_right _ _ (Nat.le_refl _)] at called
      simp only [Nat.sub_self, List.set_cons_zero] at called
      rw [left]
      exact run_of_entries called entries
    · obtain ⟨outcome, rfl⟩ := Stage.finished_of_callsLeft (by omega : stage.callsLeft = 0)
      exact ⟨later, run⟩
  · rintro stage warning current ⟨later, run⟩
    refine ⟨later, ?_⟩
    rw [quiet]
    exact run

/-- The stages of a request whose name has an answer in the cache. -/
def AnsweredBy (request : Resolver.Request) (answer : Answer) : Stage → Prop
  | .policy => True
  | .lookup _ => True
  | .query _ => False
  | .fill _ _ => False
  | .submit resolution => ∃ decision, resolution = resolutionOf request decision answer .cache
  | .finished outcome => ∃ decision, outcome = .ok (resolutionOf request decision answer .cache)

/-- A request that is resolved without a pause is answered out of the cache if that knows its
name. -/
theorem run_of_known (shares : Shares cacheOf collaborators)
    (quiet : ∀ warning state, cacheOf (warn warning state).2 = cacheOf state)
    {request : Resolver.Request} {state : State} {answer : Answer}
    (known : (cacheOf state).find? request.name = some answer) :
    ∃ decision, (Resolver.run collaborators warn request state).1 =
      .ok (resolutionOf request decision answer .cache) := by
  let Answered (stage : Stage) (current : State) : Prop :=
    (cacheOf current).find? request.name = some answer ∧ AnsweredBy request answer stage
  have began : Answered .policy state := ⟨known, trivial⟩
  refine (Resolver.run_preserves collaborators warn request Answered ?_ ?_ state began).2
  · rintro stage current ⟨kept, answered⟩
    cases stage with
    | policy =>
      refine ⟨(Cache.find?_congr (shares.policy current) request.name).trans kept, ?_⟩
      change AnsweredBy request answer
        (Resolver.afterPolicy request (collaborators.policy current).1).1
      rw [Resolver.afterPolicy_fst]
      trivial
    | lookup decision =>
      refine ⟨(Cache.find?_congr (shares.lookup request.name current) request.name).trans kept, ?_⟩
      change AnsweredBy request answer
        (Resolver.afterLookup request decision (collaborators.lookup request.name current).1).1
      rw [shares.replied, kept, Resolver.afterLookup_fst]
      exact ⟨decision, rfl⟩
    | query decision => cases answered
    | fill decision found => cases answered
    | submit resolution =>
      obtain ⟨decision, rfl⟩ := answered
      refine ⟨(Cache.find?_congr (shares.submit _ current) request.name).trans kept, ?_⟩
      change AnsweredBy request answer (Resolver.afterSubmit request
        (resolutionOf request decision answer .cache) (collaborators.submit _ current).1).1
      rw [Resolver.afterSubmit_fst]
      exact ⟨decision, rfl⟩
    | finished outcome => exact ⟨kept, answered⟩
  · rintro stage warning current ⟨kept, answered⟩
    exact ⟨(quiet warning current).symm ▸ kept, answered⟩

end Resolvers

section Wiring

variable {components : Components} {settings : ResolverSettings}
  {transport : Components.Transport} {collaborators : Collaborators (StateM World)}

/-- A signer leaves the cache alone wherever it keeps its receipts. -/
theorem cache_signerOf (receipts : ReceiptSettings) (random : Bytes) (record : Json.Value)
    (world : World) :
    ((Components.signerOf receipts random).submit record world).2.cache = world.cache := by
  simp only [Receipt.Signer.submit, Components.signerOf, World.ledger]
  split
  · rfl
  · simp only [World.fileLedger]
    generalize (Receipt.fileLedger receipts.directory).store _ _ = stored
    rfl

/-- A resolver that is wired without the address of a cache service shares the cache of its
process. -/
theorem shares_of_wiring (wired : components.collaborators settings transport = .ok collaborators)
    (inProcess : settings.cacheUrl = none)
    (apart : ∀ message world, (transport message world).2.cache = world.cache)
    (signing : ∀ signer ∈ components.signer, ∀ record world,
      (signer.submit record world).2.cache = world.cache) :
    Shares World.cache collaborators := by
  let Kept (world other : World) : Prop := other.cache.entries = world.cache.entries
  have still : ∀ world, Kept world world := fun _ => rfl
  have sent : ∀ message world, Kept world (transport message world).2 :=
    fun message world => congrArg Cache.entries (apart message world)
  have signed : ∀ signer ∈ components.signer, ∀ record world,
      Kept world (signer.submit record world).2 :=
    fun signer signs record world => congrArg Cache.entries (signing signer signs record world)
  obtain ⟨submit, submits, rfl⟩ := Components.submitCall_of_wired wired
  constructor
  case policy => exact Components.policyCall_keeps still sent
  case replied =>
    intro name world
    simp only [Components.lookupCall, inProcess]
    rfl
  case lookup =>
    exact Components.lookupCall_keeps sent fun name world => Cache.entries_get world.cache name
  case query => exact Components.queryCall_keeps still sent
  case filled =>
    intro name answer world
    simp only [Components.fillCall, inProcess]
    rfl
  case fill =>
    intro name answer world
    simp only [Components.fillCall, inProcess]
    exact Cache.entries_put world.cache name answer
  case submit => exact Components.submitCall_keeps sent signed submits

/-- A resolver that was built without the address of a cache service shares the cache of its
process. -/
theorem shares_of_built {settings : Settings} {services : List Service} {random : Bytes}
    (built : Components.ofSettings settings services random = .ok components)
    (wired : components.collaborators settings.resolver transport = .ok collaborators)
    (inProcess : settings.resolver.cacheUrl = none)
    (apart : ∀ message world, (transport message world).2.cache = world.cache) :
    Shares World.cache collaborators := by
  refine shares_of_wiring wired inProcess apart fun signer signs record world => ?_
  rw [(Components.spec_of_ofSettings built).1] at signs
  split at signs
  · cases signs
    exact cache_signerOf settings.receipt random record world
  · cases signs

/-- What is posted to the cache of a process is taken as a body that asks to store something. -/
theorem cacheSite_respond_post {request : Http.Request} (posts : request.method = .post)
    (path : request.target.path = "/cache") (world : World) :
    let answered := Components.cacheSite.respond request world
    (answered.1, answered.2.cache) = Site.takeBody Site.storeEntry request world.cache := by
  have onCache (work : StateM Cache Http.Response) : ((World.onCache work world).1,
      (World.onCache work world).2.cache) = work world.cache := rfl
  obtain ⟨method, ⟨path, query⟩, body⟩ := request
  cases posts
  cases path
  exact onCache _

end Wiring

/-- The laws of a cache that requests share with each other and with clients who write to it,
after any run. Every entry was stored from outside or replied by the quorum to a question about
its name. A name with an answer keeps one. A resolution out of the cache has the answer that
the cache had at its lookup. A request whose lookup comes after a write for its name neither
asks the quorum nor fails. And once a request was resolved, one for the same name that is
resolved after it without a pause gets the last answer written for the name out of the cache,
and is part of a longer run.

The cache is that of a process: what is posted to its cache service is written to it, and a resolver
that the process was built for shares it, unless there is the address of another cache service. -/
theorem cache_laws {events : List Event} {scene : Scene} (run : Run Step start events scene) :
    (∀ name answer, scene.cache.find? name = some answer →
      (∃ body, .posted body ∈ events ∧ stored? body = some (name, answer)) ∨
        ∃ index reply, .called index (.query name, .query (.replied reply)) ∈ events ∧
          reply.answer = answer) ∧
    (∀ name later final, Run Step scene later final →
      (scene.cache.find? name).isSome = true → (final.cache.find? name).isSome = true) ∧
    (∀ (index : Nat) (session : Session) (resolution : Resolution),
      scene.sessions[index]? = some session → session.stage = .finished (.ok resolution) →
      resolution.origin = some .cache →
      resolution.name = session.request.name ∧
        ∃ before after middle,
          events = before ++ .called index (.lookup resolution.name,
            .lookup (.replied (some resolution.answer))) :: after ∧
          Run Step start before middle ∧
          middle.cache.find? resolution.name = some resolution.answer) ∧
    (∀ (index : Nat) (session : Session) (name : Name) (ending : CallEnding)
      (before after : List Event), scene.sessions[index]? = some session →
      events = before ++ .called index (.lookup name, ending) :: after →
      (∃ event ∈ before, ∃ answer, event.write? = some (name, answer)) →
      (∀ other reply, .called index (.query other, reply) ∉ events) ∧
        (∀ decision, session.stage ≠ .query decision) ∧
        ∀ failure, session.stage ≠ .finished (.error failure)) ∧
    (∀ (State : Type) (cacheOf : State → Cache) (collaborators : Collaborators (StateM State))
      (warn : Warning → StateM State Unit) (request : Resolver.Request) (state : State),
      Shares cacheOf collaborators →
      (∀ warning state, cacheOf (warn warning state).2 = cacheOf state) →
      cacheOf state = scene.cache →
      let resolved := Resolver.run collaborators warn request state
      (∃ later, Run Step start (events ++ later)
        ⟨cacheOf resolved.2, scene.sessions ++ [⟨request, .finished resolved.1⟩]⟩) ∧
      ((∃ session ∈ scene.sessions, session.request.name = request.name ∧
          ∃ resolution, session.stage = .finished (.ok resolution)) →
        ∃ decision answer, lastWritten? request.name events = some answer ∧
          resolved.1 = .ok (resolutionOf request decision answer .cache))) ∧
    (∀ (request : Http.Request) (world : World), request.method = .post →
      request.target.path = "/cache" → world.cache = scene.cache →
      let answered := Components.cacheSite.respond request world
      (answered.1, answered.2.cache) = Site.takeBody Site.storeEntry request scene.cache ∧
      ∃ later, Run Step start (events ++ .posted request.body :: later)
        ⟨answered.2.cache, scene.sessions⟩) ∧
    (∀ settings services random components transport,
      Components.ofSettings settings services random = .ok components →
      .doh ∈ services ∨ .dot ∈ services → settings.resolver.cacheUrl = none →
      (∀ message world, (transport message world).2.cache = world.cache) →
      ∃ collaborators, components.collaborators settings.resolver transport = .ok collaborators ∧
        Shares World.cache collaborators) := by
  refine ⟨?provenance, ?persistence, ?cached, ?cacheFirst, ?oneByOne, ?writes, ?shares⟩
  case provenance =>
    intro name answer known
    exact provenance run known
  case persistence =>
    intro name later final continued known
    exact persistence continued known
  case cached =>
    intro index session resolution here ended cached
    exact cached_at_lookup run here ended cached
  case cacheFirst =>
    rintro index session name ending before after here parted ⟨event, earlier, answer, wrote⟩
    exact cache_first run parted here earlier wrote
  case oneByOne =>
    intro State cacheOf collaborators warn request state shares quiet shared resolved
    refine ⟨?_, ?_⟩
    · obtain ⟨later, continued⟩ := run_of_resolve shares quiet request scene.sessions state
      rw [shared] at continued
      exact ⟨later, run.trans continued⟩
    · rintro ⟨session, member, same, resolution, ended⟩
      obtain ⟨index, here⟩ := List.mem_iff_getElem?.mp member
      obtain ⟨event, earlier, answer, wrote⟩ := exists_write_of_ok run here ended
      obtain ⟨last, written⟩ := Option.isSome_iff_exists.mp (isSome_lastWritten? earlier wrote)
      rw [same] at written
      have known : (cacheOf state).find? request.name = some last := by
        rw [shared, find?_of_run run, written]
      obtain ⟨decision, answered⟩ := run_of_known shares quiet known
      exact ⟨decision, last, written, answered⟩
  case writes =>
    intro request world posts path shared answered
    have stored := cacheSite_respond_post posts path world
    rw [shared] at stored
    have same : answered.2.cache.entries = (keep scene.cache (stored? request.body)).entries := by
      rw [← entries_takeBody, ← stored]
    have posted := run.step (.posted request.body)
    obtain ⟨later, counted⟩ := run_of_entries
      (.refl : Run Step ⟨keep scene.cache (stored? request.body), scene.sessions⟩ [] _) same
    refine ⟨stored, later, ?_⟩
    rw [List.append_cons]
    exact posted.trans counted
  case shares =>
    intro settings services random components transport built served inProcess apart
    obtain ⟨collaborators, wired⟩ := Components.exists_collaborators built served transport
    exact ⟨collaborators, wired, shares_of_built built wired inProcess apart⟩

/-- The same name asked three times in a row. The second request gets out of the cache what the
first one had from the quorum, and the third one what was posted to the cache in the meantime. -/
theorem cache_laws_askedAgain :
    ∃ components collaborators,
      Components.ofSettings Components.alone [.doh] [] = .ok components ∧
      components.collaborators Components.alone.resolver Components.unreachable =
        .ok collaborators ∧
      let request : Resolver.Request := ⟨⟨"example.com", by decide⟩, 2000⟩
      let answer : Answer := ⟨"A", 60, "203.0.113.20"⟩
      let body := (CacheWrite.toJson request.name answer).compact
      let first := Resolver.run collaborators World.warn request Components.vacant
      let second := Resolver.run collaborators World.warn request first.2
      let answered := Components.cacheSite.respond ⟨.post, ⟨"/cache", none⟩, body⟩ second.2
      let third := Resolver.run collaborators World.warn request answered.2
      (∃ events, Run Step start events ⟨third.2.cache, [⟨request, .finished first.1⟩,
        ⟨request, .finished second.1⟩, ⟨request, .finished third.1⟩]⟩) ∧
      (∃ decision, second.1 =
        .ok (resolutionOf request decision ⟨"A", 60, "203.0.113.10"⟩ .cache)) ∧
      ∃ decision, third.1 = .ok (resolutionOf request decision answer .cache) := by
  obtain ⟨components, built⟩ :
      ∃ components, Components.ofSettings Components.alone [.doh] [] = .ok components := ⟨_, rfl⟩
  obtain ⟨-, -, -, -, -, -, shares⟩ := cache_laws (.refl : Run Step start [] start)
  obtain ⟨collaborators, wired, shares⟩ := shares _ _ _ _ Components.unreachable built
    (.inl List.mem_cons_self) rfl fun _ _ => rfl
  refine ⟨components, collaborators, built, wired, ?_⟩
  intro request answer body first second answered third
  have quiet : ∀ warning world, ((World.warn warning world).2).cache = world.cache := fun _ _ => rfl
  obtain ⟨-, -, -, -, oneByOne, -⟩ := cache_laws (.refl : Run Step start [] start)
  obtain ⟨⟨_, firstRun⟩, -⟩ := oneByOne World World.cache collaborators World.warn request
    Components.vacant shares quiet rfl
  obtain ⟨-, -, -, -, oneByOne, -⟩ := cache_laws firstRun
  obtain ⟨⟨_, secondRun⟩, secondAnswered⟩ := oneByOne World World.cache collaborators World.warn
    request first.2 shares quiet rfl
  obtain ⟨-, -, -, -, -, writes, -⟩ := cache_laws secondRun
  obtain ⟨-, _, posted⟩ := writes ⟨.post, ⟨"/cache", none⟩, body⟩ second.2 rfl rfl rfl
  have same : Components.cacheSite.respond ⟨.post, ⟨"/cache", none⟩, body⟩ second.2 = answered :=
    rfl
  rw [same] at posted
  obtain ⟨resolution, ended⟩ : ∃ resolution, first.1 = .ok resolution := by
    cases built
    cases wired
    exact ⟨_, rfl⟩
  have finished := congrArg Stage.finished ended
  have fromQuorum : first.2.cache.find? request.name = some ⟨"A", 60, "203.0.113.10"⟩ := by
    cases built
    cases wired
    decide +kernel
  have fromOutside : answered.2.cache.find? request.name = some answer := by
    cases built
    cases wired
    decide +kernel
  clear_value answered
  obtain ⟨-, -, -, -, oneByOne, -⟩ := cache_laws posted
  obtain ⟨⟨_, thirdRun⟩, thirdAnswered⟩ := oneByOne World World.cache collaborators World.warn
    request answered.2 shares quiet rfl
  refine ⟨⟨_, thirdRun⟩, ?_, ?_⟩
  · obtain ⟨decision, known, written, cached⟩ :=
      secondAnswered ⟨_, List.mem_singleton_self _, rfl, resolution, finished⟩
    rw [← find?_of_run firstRun, fromQuorum] at written
    cases written
    exact ⟨decision, cached⟩
  · obtain ⟨decision, known, written, cached⟩ :=
      thirdAnswered ⟨_, List.mem_cons_self, rfl, resolution, finished⟩
    rw [← find?_of_run posted, fromOutside] at written
    cases written
    exact ⟨decision, cached⟩

end GatedResolver.SharedCache
