import GatedResolver.Deployment.Wiring
import GatedResolver.Proofs.Interleaving.Run
import GatedResolver.Proofs.Resolver.Stepwise
import GatedResolver.Site.Cache

/-!
# Requests that share a cache

Any number of requests work on one cache in the same process, in any order, while clients
write to it from outside. The other collaborators may do anything. Each operation on the
entries is one step; the counters move in steps of their own.

The cache is determined by the writes of a run (`find?_of_run`) and each request by the calls
it made itself (`tracked_of_run`). All laws of the cache follow from these two invariants.
-/

namespace GatedResolver.SharedCache

open Interleaving (Run)
open Resolver (Call CallEnding Collaborators Contact Course Outcome Stage resolutionOf)

/-- A request with where it stands. -/
structure Session where
  request : Resolver.Request
  stage : Stage

/-- The cache and the requests that were made so far, in the order in which they began. -/
structure Scene where
  cache : Cache
  sessions : List Session

/-- Nothing has happened yet. -/
def start : Scene := ⟨.empty, []⟩

/-- The entry that a body from outside stores, unless it is refused. -/
def stored? (body : Bytes) : Option (Name × Answer) :=
  if Site.bodyLimit < body.length then none else (Site.writtenEntry body).toOption

/-- What happens to a scene. -/
inductive Event where
  /-- A request begins. -/
  | began (request : Resolver.Request)
  /-- The call that a request makes has ended. -/
  | called (session : Nat) (contact : Contact)
  /-- A client sends a body to be stored. -/
  | posted (body : Bytes)
  /-- The counters of the cache move. -/
  | counted (counters : CacheCounters)

/-- The cache with one more entry, if there is one to be kept. -/
def keep (cache : Cache) (entry : Option (Name × Answer)) : Cache :=
  entry.elim cache fun (name, answer) => cache.insert name answer

/-- How a call may end, and what it does to the entries of the cache. The cache itself always
replies; everything else ends in any way and leaves the cache alone. -/
inductive Served (cache : Cache) : Call → CallEnding → Cache → Prop where
  | policy (ending : Resolver.Ending Policy.Decision) :
      Served cache .policy (.policy ending) cache
  | lookup (name : Name) :
      Served cache (.lookup name) (.lookup (.replied (cache.find? name))) cache
  | query (name : Name) (ending : Resolver.Ending Quorum.Reply) :
      Served cache (.query name) (.query ending) cache
  | fill (name : Name) (answer : Answer) :
      Served cache (.fill name answer) (.fill (.replied ())) (cache.insert name answer)
  | submit (resolution : Resolution) (ending : Resolver.Ending Resolver.Submission) :
      Served cache (.submit resolution) (.submit ending) cache

/-- One step of anyone. -/
inductive Step (scene : Scene) : Event → Scene → Prop where
  | began (request : Resolver.Request) :
      Step scene (.began request)
        { scene with sessions := scene.sessions ++ [⟨request, .policy⟩] }
  | called {index : Nat} {session : Session} {call : Call} {ending : CallEnding} {next : Stage}
      {cache : Cache} (here : scene.sessions[index]? = some session)
      (due : session.stage.call? session.request = some call)
      (served : Served scene.cache call ending cache)
      (leads : session.stage.after? session.request ending = some next) :
      Step scene (.called index (call, ending))
        ⟨cache, scene.sessions.set index ⟨session.request, next⟩⟩
  | posted (body : Bytes) :
      Step scene (.posted body) { scene with cache := keep scene.cache (stored? body) }
  | counted (counters : CacheCounters) :
      Step scene (.counted counters) { scene with cache := ⟨scene.cache.entries, counters⟩ }

section Writes

/-- The entry that an event writes. -/
def Event.write? : Event → Option (Name × Answer)
  | .called _ (.fill name answer, _) => some (name, answer)
  | .posted body => stored? body
  | _ => none

/-- The answer that an event writes for a name. -/
def Event.writtenFor? (name : Name) (event : Event) : Option Answer :=
  match event.write? with
  | some (other, answer) => if name = other then some answer else none
  | none => none

/-- The answer that was written last for a name. -/
def lastWritten? (name : Name) (events : List Event) : Option Answer :=
  events.reverse.findSome? (Event.writtenFor? name)

/-- An event writes an answer for a name exactly when it writes that entry. -/
theorem writtenFor?_eq_some_iff {name : Name} {event : Event} {answer : Answer} :
    event.writtenFor? name = some answer ↔ event.write? = some (name, answer) := by
  unfold Event.writtenFor?
  split
  · next other written wrote =>
    rw [wrote]
    by_cases same : name = other
    · simp [same]
    · simp [same, Ne.symm same]
  · next silent => simp [silent]

/-- One more event is later than all others. -/
theorem lastWritten?_concat (name : Name) (events : List Event) (event : Event) :
    lastWritten? name (events ++ [event]) =
      (event.writtenFor? name).or (lastWritten? name events) := by
  simp only [lastWritten?, List.reverse_append, List.reverse_singleton, List.singleton_append,
    List.findSome?_cons]
  cases event.writtenFor? name <;> rfl

/-- An answer that was written was written by an event. -/
theorem exists_write_of_lastWritten? {name : Name} {events : List Event} {answer : Answer}
    (last : lastWritten? name events = some answer) :
    ∃ event ∈ events, event.write? = some (name, answer) := by
  obtain ⟨event, member, wrote⟩ := List.exists_of_findSome?_eq_some last
  exact ⟨event, List.mem_reverse.mp member, writtenFor?_eq_some_iff.mp wrote⟩

/-- Where something was written something was written last. -/
theorem isSome_lastWritten? {name : Name} {events : List Event} {event : Event}
    {answer : Answer} (member : event ∈ events) (wrote : event.write? = some (name, answer)) :
    (lastWritten? name events).isSome = true := by
  rw [lastWritten?, List.findSome?_isSome_iff]
  exact ⟨event, List.mem_reverse.mpr member, by simp [writtenFor?_eq_some_iff.mpr wrote]⟩

/-- A kept entry is found under its name, and nothing else changes. -/
theorem find?_keep (cache : Cache) (entry : Option (Name × Answer)) (name : Name) :
    (keep cache entry).find? name =
      (match entry with
        | some (other, answer) => if name = other then some answer else none
        | none => none).or (cache.find? name) := by
  rcases entry with _ | ⟨other, answer⟩
  · rfl
  · simp only [keep, Option.elim, Cache.find?_insert]
    split <;> rfl

/-- A step changes what is found for a name only by writing for that name. -/
theorem find?_step {scene next : Scene} {event : Event} (step : Step scene event next)
    (name : Name) :
    next.cache.find? name = (event.writtenFor? name).or (scene.cache.find? name) := by
  cases step with
  | began request => rfl
  | called here due served leads =>
    cases served with
    | fill other answer => exact find?_keep scene.cache (some (other, answer)) name
    | _ => rfl
  | posted body => exact find?_keep scene.cache (stored? body) name
  | counted counters => rfl

/-- What is found for a name is what was written last for it, and what had been found before
if nothing was written. -/
theorem find?_of_steps {scene final : Scene} {events : List Event}
    (run : Run Step scene events final) (name : Name) :
    final.cache.find? name = (lastWritten? name events).or (scene.cache.find? name) := by
  induction run with
  | refl => rfl
  | step prior transition inductionHypothesis =>
    rw [find?_step transition, inductionHypothesis, lastWritten?_concat, Option.or_assoc]

/-- The cache of a run holds the last answer that was written for each name. -/
theorem find?_of_run {final : Scene} {events : List Event} (run : Run Step start events final)
    (name : Name) : final.cache.find? name = lastWritten? name events := by
  rw [find?_of_steps run]
  exact Option.or_none

/-- The site of the cache stores what a body asks to store, or nothing. -/
theorem entries_takeBody (request : Http.Request) (cache : Cache) :
    (Site.takeBody Site.storeEntry request cache).2.entries =
      (keep cache (stored? request.body)).entries := by
  unfold Site.takeBody stored?
  by_cases long : Site.bodyLimit < request.body.length
  · rw [if_pos long, if_pos long]
    rfl
  · rw [if_neg long, if_neg long, Site.storeEntry]
    cases Site.writtenEntry request.body with
    | error refusal => rfl
    | ok entry => exact Cache.entries_put cache entry.1 entry.2

end Writes

section Sessions

/-- The contact of an event, if it is one of a given session. -/
def Event.contactOf? (index : Nat) : Event → Option Contact
  | .called session contact => if session = index then some contact else none
  | _ => none

/-- The contacts of one session, in their order. -/
def ownContacts (index : Nat) (events : List Event) : List Contact :=
  events.filterMap (Event.contactOf? index)

/-- A contact is one of a session exactly when that session was called so. -/
theorem mem_ownContacts_iff {index : Nat} {events : List Event} {contact : Contact} :
    contact ∈ ownContacts index events ↔ .called index contact ∈ events := by
  simp only [ownContacts, List.mem_filterMap]
  constructor
  · rintro ⟨event, member, own⟩
    unfold Event.contactOf? at own
    split at own
    · next session other =>
      split at own
      · next same =>
        cases own
        exact same ▸ member
      · cases own
    · cases own
  · intro member
    exact ⟨_, member, by simp [Event.contactOf?]⟩

/-- An event adds its own contact to a session and nothing else. -/
theorem ownContacts_concat (index : Nat) (events : List Event) (event : Event) :
    ownContacts index (events ++ [event]) =
      ownContacts index events ++ (event.contactOf? index).toList := by
  simp only [ownContacts, List.filterMap_append]
  cases own : event.contactOf? index <;> simp [own]

/-- Each session went its own course, and no session was called before it began. -/
structure Tracked (events : List Event) (scene : Scene) : Prop where
  course : ∀ {index session}, scene.sessions[index]? = some session →
    Course session.request (ownContacts index events) session.stage
  unborn : ∀ {index}, scene.sessions.length ≤ index → ownContacts index events = []

/-- A step that calls no session leaves the contacts as they are. -/
theorem ownContacts_of_uncalled {event : Event} (uncalled : ∀ index, event.contactOf? index = none)
    (index : Nat) (events : List Event) :
    ownContacts index (events ++ [event]) = ownContacts index events := by
  rw [ownContacts_concat, uncalled, Option.toList_none, List.append_nil]

/-- Sessions do not notice what happens to the cache alone. -/
theorem Tracked.uncalled {events : List Event} {scene : Scene} {event : Event}
    (tracked : Tracked events scene) (uncalled : ∀ index, event.contactOf? index = none)
    (cache : Cache) : Tracked (events ++ [event]) { scene with cache := cache } := by
  constructor
  · intro index session here
    rw [ownContacts_of_uncalled uncalled]
    exact tracked.course here
  · intro index late
    rw [ownContacts_of_uncalled uncalled]
    exact tracked.unborn late

/-- A step takes at most one session one call further. -/
theorem Tracked.step {events : List Event} {scene next : Scene} {event : Event}
    (tracked : Tracked events scene) (step : Step scene event next) :
    Tracked (events ++ [event]) next := by
  cases step with
  | began request =>
    have same := fun index => ownContacts_of_uncalled (fun _ => rfl : ∀ index,
      (Event.began request).contactOf? index = none) index events
    constructor
    · intro index session here
      rw [same]
      rw [List.getElem?_append] at here
      split at here
      · exact tracked.course here
      · next late =>
        have first : index - scene.sessions.length = 0 := by
          by_contra later
          rw [List.getElem?_eq_none (by simp; omega)] at here
          cases here
        rw [first] at here
        cases here
        rw [tracked.unborn (by omega)]
        exact .start
    · intro index late
      rw [same]
      exact tracked.unborn (by simp at late; omega)
  | @called index session call ending stage cache here due served leads =>
    have known : index < scene.sessions.length := (List.getElem?_eq_some_iff.mp here).1
    constructor
    · intro other otherSession found
      rw [ownContacts_concat]
      by_cases same : index = other
      · subst same
        rw [List.getElem?_set_self known] at found
        cases found
        simpa [Event.contactOf?] using (tracked.course here).step due leads
      · rw [List.getElem?_set_ne same] at found
        simpa [Event.contactOf?, same] using tracked.course found
    · intro other late
      rw [List.length_set] at late
      have different : index ≠ other := by omega
      rw [ownContacts_concat]
      simpa [Event.contactOf?, different] using tracked.unborn late
  | posted body => exact tracked.uncalled (fun _ => rfl) _
  | counted counters => exact tracked.uncalled (fun _ => rfl) _

/-- In every run each session goes its own course. -/
theorem tracked_of_run {events : List Event} {scene : Scene} (run : Run Step start events scene) :
    Tracked events scene := by
  induction run with
  | refl =>
    constructor
    · intro index session here
      cases here
    · intro index late
      rfl
  | step prior transition inductionHypothesis => exact inductionHypothesis.step transition

/-- A session that was called has begun. -/
theorem Tracked.session_of_called {events : List Event} {scene : Scene}
    (tracked : Tracked events scene) {index : Nat} {contact : Contact}
    (member : .called index contact ∈ events) :
    ∃ session, scene.sessions[index]? = some session := by
  have own := mem_ownContacts_iff.mpr member
  by_cases known : index < scene.sessions.length
  · exact ⟨_, List.getElem?_eq_getElem known⟩
  · rw [tracked.unborn (by omega)] at own
    cases own

end Sessions

end GatedResolver.SharedCache
