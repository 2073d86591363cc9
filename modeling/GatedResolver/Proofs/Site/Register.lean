import GatedResolver.Proofs.Interleaving.SharedCache
import GatedResolver.Proofs.Success

/-!
# The cache service as a register for each name

Whatever requests the cache service got, it holds for each name the answer of the last request to
store one that was accepted (`find?_served`). A lookup tells that answer and changes no entry, and
a request that is refused leaves the cache as it was, its counters included.
-/

namespace GatedResolver

/-- A text is taken as a name exactly when it is the text of that name. -/
theorem Name.parse_eq_ok_iff {text : String} {name : Name} :
    parse text = .ok name ↔ text = name.text := by
  constructor
  · intro parsed
    have found : ofText text = .ok name := mapError_eq_ok_iff.mp parsed
    have taken : ofText? text = some name := by rw [ofText?, found, Except.toOption]
    exact (ofText?_eq_some_iff.mp taken).symm
  · rintro rfl
    exact parse_text name

/-- A text that is no name is refused as such. -/
theorem Name.failure_of_parse {text : String} {failure : Failure}
    (refused : parse text = .error failure) : ∃ reason, failure = .invalidName reason := by
  obtain ⟨fault, -, rfl⟩ := error_of_mapError refused
  exact ⟨fault.message, rfl⟩

namespace Site

open Http (Request Response)
open SharedCache (keep stored?)

/-- A body that is a document with a name and with a record, which is not `null` and is read as an
answer. -/
def Proposes (body : Bytes) (name : Name) (answer : Answer) : Prop :=
  ∃ record, CacheWrite.decoder.decode body = .ok ⟨some name.text, some record⟩ ∧
    record ≠ .null ∧ Answer.decoder.decodeValue record = .ok answer

/-- A document that was read asks to store an answer exactly when it has a name and a record that
is this answer. -/
theorem entry_eq_ok_iff {write : CacheWrite} {name : Name} {answer : Answer} :
    write.entry = .ok (name, answer) ↔
      ∃ record, write = ⟨some name.text, some record⟩ ∧ record ≠ .null ∧
        Answer.decoder.decodeValue record = .ok answer := by
  obtain ⟨text, record⟩ := write
  rcases text with _ | text
  · simp [CacheWrite.entry, throw, throwThe, MonadExceptOf.throw]
  rcases record with _ | record
  · simp [CacheWrite.entry, throw, throwThe, MonadExceptOf.throw]
  by_cases null : record = .null
  · simp [CacheWrite.entry, null, throw, throwThe, MonadExceptOf.throw, bind, Except.bind]
  cases decoded : Answer.decoder.decodeValue record <;> cases parsed : Name.parse text <;>
    simp [CacheWrite.entry, null, decoded, parsed, ← Name.parse_eq_ok_iff, throw, throwThe,
      MonadExceptOf.throw, bind, Except.bind, pure, Except.pure]

/-- A document that was read and asks to store nothing is no valid request. -/
theorem failureStatus_of_entry {write : CacheWrite} {failure : Failure}
    (refused : write.entry = .error failure) : Response.failureStatus failure = 400 := by
  obtain ⟨text, record⟩ := write
  rcases text with _ | text
  · cases refused
    rfl
  rcases record with _ | record
  · cases refused
    rfl
  by_cases null : record = .null
  · subst null
    cases refused
    rfl
  cases parsed : Name.parse text with
  | error fault =>
    obtain ⟨reason, rfl⟩ := Name.failure_of_parse parsed
    simp [CacheWrite.entry, null, parsed, bind, Except.bind] at refused
    subst refused
    rfl
  | ok name =>
    cases decoded : Answer.decoder.decodeValue record with
    | ok answer =>
      simp [CacheWrite.entry, null, parsed, decoded, bind, Except.bind, pure, Except.pure] at refused
    | error fault =>
      simp [CacheWrite.entry, null, parsed, decoded, throw, throwThe, MonadExceptOf.throw, bind,
        Except.bind] at refused
      subst refused
      rfl

/-- A body asks to store an answer exactly when it proposes it. -/
theorem writtenEntry_eq_ok_iff {body : Bytes} {name : Name} {answer : Answer} :
    writtenEntry body = .ok (name, answer) ↔ Proposes body name answer := by
  unfold writtenEntry Proposes
  split
  · next empty =>
    obtain rfl := List.isEmpty_iff.mp empty
    have nothing : CacheWrite.decoder.decode [] = .error (.unfinished .value) := rfl
    simp [nothing]
  · split
    · next fault wrong => simp [wrong]
    · next write decoded =>
      rw [decoded]
      simp only [Except.ok.injEq]
      rw [← entry_eq_ok_iff, mapError_eq_ok_iff]

/-- A body that proposes nothing is refused as a bad request. -/
theorem status_of_writtenEntry {body : Bytes} {refusal : Response}
    (refused : writtenEntry body = .error refusal) : refusal.status = 400 := by
  unfold writtenEntry at refused
  split at refused
  · cases refused
    rfl
  · split at refused
    · cases refused
      rfl
    · next write decoded =>
      obtain ⟨failure, entry, rfl⟩ := error_of_mapError refused
      exact failureStatus_of_entry entry

/-- A lookup is for a name exactly when its query string has the text of that name. -/
theorem lookupName_eq_ok_iff {query : Option String} {name : Name} :
    lookupName query = .ok name ↔ Http.queriedName? query = some name.text := by
  unfold lookupName
  split
  · next missing => simp [missing]
  · next text queried =>
    rw [queried, Option.some.injEq, ← Name.parse_eq_ok_iff]
    split
    · next empty =>
      obtain rfl := String.isEmpty_iff.mp empty
      have nameless : Name.parse "" = .error (.invalidName "name cannot be empty") := rfl
      simp [nameless]
    · exact mapError_eq_ok_iff

/-- A lookup without a name is refused as a bad request. -/
theorem status_of_lookupName {query : Option String} {refusal : Response}
    (refused : lookupName query = .error refusal) : refusal.status = 400 := by
  unfold lookupName at refused
  split at refused
  · cases refused
    rfl
  · next text queried =>
    split at refused
    · cases refused
      rfl
    · obtain ⟨failure, parsed, rfl⟩ := error_of_mapError refused
      obtain ⟨reason, rfl⟩ := Name.failure_of_parse parsed
      rfl

/-- The entry that a request stores, if it is accepted. -/
def accepted? (request : Request) : Option (Name × Answer) :=
  if request.method = .post ∧ request.target.path = "/cache" then stored? request.body else none

/-- The cache after some requests to its service, which was empty at first. -/
def served (requests : List Request) : Cache :=
  requests.foldl (fun cache request => (Site.cache.respond request cache).2) .empty

/-- The answer of the last request to store one for a name that was accepted. -/
def lastAccepted? (name : Name) (requests : List Request) : Option Answer :=
  requests.reverse.findSome? fun request =>
    (accepted? request).bind fun entry => if name = entry.1 then some entry.2 else none

section Requests

variable {request : Request} (cache : Cache)

/-- What is posted is taken as a body that asks to store something. -/
theorem respond_post (posts : request.method = .post) (path : request.target.path = "/cache") :
    Site.cache.respond request cache = takeBody storeEntry request cache := by
  obtain ⟨method, ⟨path, query⟩, body⟩ := request
  cases posts
  cases path
  rfl

/-- What is asked for is looked up. -/
theorem respond_get (asks : request.method = .get) (path : request.target.path = "/cache") :
    Site.cache.respond request cache = lookUp request cache := by
  obtain ⟨method, ⟨path, query⟩, body⟩ := request
  cases asks
  cases path
  rfl

/-- A lookup changes no entry. -/
theorem entries_lookUp (request : Request) : (lookUp request cache).2.entries = cache.entries := by
  unfold lookUp
  split
  · rfl
  · next name known =>
    have kept := Cache.entries_get cache name
    split <;> next asked got => rw [got] at kept; exact kept

/-- A request changes the entries only by what it stores. -/
theorem entries_respond (request : Request) :
    (Site.cache.respond request cache).2.entries = (keep cache (accepted? request)).entries := by
  obtain ⟨method, ⟨path, query⟩, body⟩ := request
  by_cases health : path = "/health"
  · subst health
    cases method <;> rfl
  by_cases caches : path = "/cache"
  · subst caches
    cases method with
    | post =>
      rw [accepted?, if_pos ⟨rfl, rfl⟩]
      exact SharedCache.entries_takeBody ⟨.post, ⟨"/cache", query⟩, body⟩ cache
    | get => exact entries_lookUp cache ⟨.get, ⟨"/cache", query⟩, body⟩
    | head => exact entries_lookUp cache ⟨.head, ⟨"/cache", query⟩, body⟩
    | other name => rfl
  · have elsewhere : Site.cache path = none := by simp [Site.cache, health, caches]
    have unanswered : (Site.cache.respond ⟨method, ⟨path, query⟩, body⟩ cache).2 =
        (Site.cache.answer ⟨method, ⟨path, query⟩, body⟩ cache).2 := rfl
    rw [unanswered, answer, accepted?, if_neg fun both => caches both.2]
    simp only [elsewhere]
    rfl

end Requests

/-- The service holds for each name what was accepted for it last. -/
theorem find?_served (requests : List Request) (name : Name) :
    (served requests).find? name = lastAccepted? name requests := by
  induction requests using List.reverseRecOn with
  | nil => rfl
  | append_singleton past request inductionHypothesis =>
    have step : served (past ++ [request]) = (Site.cache.respond request (served past)).2 := by
      simp [served]
    rw [step, Cache.find?_congr (entries_respond (served past) request), SharedCache.find?_keep,
      inductionHypothesis]
    simp only [lastAccepted?, List.reverse_append, List.reverse_singleton, List.singleton_append,
      List.findSome?_cons]
    rcases accepted? request with _ | ⟨other, answer⟩
    · rfl
    · by_cases same : name = other <;> simp [same]

/-- At any time a request to store something is accepted, and then exactly the entry of the name
that its body proposes becomes the answer that it proposes, or it is refused because its body
proposes nothing, and then the cache stays as it was. A lookup changes no entry. Without a valid
name it is refused and leaves the counters alone, too; for a name it tells the answer of the last
request to store one that was accepted, or that there is none. -/
theorem cache_registers (past : List Request) (request : Request)
    (path : request.target.path = "/cache") :
    let before := served past
    let response := (Site.cache.respond request before).1
    let after := (Site.cache.respond request before).2
    (∀ name answer, accepted? request = some (name, answer) ↔
      request.method = .post ∧ response.status = 201 ∧ Proposes request.body name answer) ∧
    (request.method = .post → request.body.length ≤ bodyLimit →
      (response.status = 201 ∧ ∃ name answer, Proposes request.body name answer ∧
        ∀ other, after.find? other = if other = name then some answer else before.find? other) ∨
      (response.status = 400 ∧ (∀ name answer, ¬Proposes request.body name answer) ∧
        after = before)) ∧
    (request.method = .get →
      after.entries = before.entries ∧
      ((∀ text, Http.queriedName? request.target.query = some text → nameFault? text ≠ none) →
        response.status = 400 ∧ after = before) ∧
      ∀ name : Name, Http.queriedName? request.target.query = some name.text →
        match lastAccepted? name past with
        | some answer => response = .json 200 answer.toJson
        | none => response.status = 404) := by
  intro before
  obtain ⟨response, after, responded⟩ :
      ∃ response after, Site.cache.respond request before = (response, after) := ⟨_, _, rfl⟩
  simp only [responded]
  refine ⟨?accepts, ?stores, ?looks⟩
  case accepts =>
    intro name answer
    by_cases posts : request.method = .post
    · rw [respond_post before posts path, takeBody] at responded
      rw [accepted?, if_pos ⟨posts, path⟩, stored?, ← writtenEntry_eq_ok_iff]
      by_cases long : bodyLimit < request.body.length
      · rw [if_pos long] at responded ⊢
        cases responded
        exact ⟨fun refused => (by cases refused), fun taken => (by cases taken.2.1)⟩
      · rw [if_neg long, storeEntry] at responded
        rw [if_neg long]
        cases entry : writtenEntry request.body with
        | error refusal => simp [Except.toOption]
        | ok proposed =>
          rw [entry] at responded
          cases responded
          simp [Except.toOption, Response.json, posts]
    · simp [accepted?, posts]
  case stores =>
    intro posts fits
    rw [respond_post before posts path, takeBody, if_neg (Nat.not_lt.mpr fits), storeEntry]
      at responded
    cases entry : writtenEntry request.body with
    | ok proposed =>
      obtain ⟨name, answer⟩ := proposed
      rw [entry] at responded
      cases responded
      exact .inl ⟨rfl, name, answer, writtenEntry_eq_ok_iff.mp entry, fun other =>
        Cache.find?_put before name other answer⟩
    | error refusal =>
      rw [entry] at responded
      cases responded
      refine .inr ⟨status_of_writtenEntry entry, fun name answer proposes => ?_, rfl⟩
      rw [writtenEntry_eq_ok_iff.mpr proposes] at entry
      cases entry
  case looks =>
    intro asks
    rw [respond_get before asks path] at responded
    have kept := entries_lookUp before request
    rw [responded] at kept
    refine ⟨kept, fun nameless => ?_, fun name queried => ?_⟩
    · cases looked : lookupName request.target.query with
      | ok name => exact absurd name.valid (nameless name.text (lookupName_eq_ok_iff.mp looked))
      | error refusal =>
        rw [lookUp, looked] at responded
        cases responded
        exact ⟨status_of_lookupName looked, rfl⟩
    · obtain ⟨counted, got⟩ : ∃ counted, before.get name = (lastAccepted? name past, counted) :=
        ⟨_, Prod.ext (find?_served past name) rfl⟩
      rw [lookUp, lookupName_eq_ok_iff.mpr queried] at responded
      simp only [got] at responded
      cases found : lastAccepted? name past with
      | some answer =>
        rw [found] at responded
        cases responded
        rfl
      | none =>
        rw [found] at responded
        cases responded
        rfl

/-- A request to store an answer for a name. -/
def storing (name : Name) (answer : Answer) : Request :=
  ⟨.post, ⟨"/cache", none⟩, (CacheWrite.toJson name answer).compact⟩

/-- Of two answers that are stored for a name, with a refused request in between, a lookup tells
the later one, and a refused request does not change that. -/
theorem cache_registers_storedTwice :
    let name : Name := ⟨"example.com", by decide⟩
    let empty : Request := ⟨.post, ⟨"/cache", none⟩, []⟩
    let past := [storing name ⟨"A", 60, "203.0.113.10"⟩, empty, storing name ⟨"A", 30, "198.51.100.1"⟩]
    let lookup : Request := ⟨.get, ⟨"/cache", some "name=example.com"⟩, []⟩
    empty.body.length ≤ bodyLimit ∧
      (Site.cache.respond empty (served past)).1.status = 400 ∧
      (Site.cache.respond empty (served past)).2 = served past ∧
      Http.queriedName? lookup.target.query = some name.text ∧
      (Site.cache.respond lookup (served past)).1 =
        .json 200 (Answer.toJson ⟨"A", 30, "198.51.100.1"⟩) := by
  intro name empty past lookup
  have fits : empty.body.length ≤ bodyLimit := by decide
  have queried : Http.queriedName? lookup.target.query = some name.text := by decide +kernel
  have last : lastAccepted? name past = some ⟨"A", 30, "198.51.100.1"⟩ := by decide +kernel
  obtain ⟨-, stores, -⟩ := cache_registers past empty rfl
  obtain ⟨-, -, looks⟩ := cache_registers past lookup rfl
  have told := (looks rfl).2.2 name queried
  rw [last] at told
  rcases stores rfl fits with ⟨-, other, answer, ⟨record, decoded, -⟩, -⟩ | ⟨refused, -, same⟩
  · have nothing : CacheWrite.decoder.decode [] = .error (.unfinished .value) := rfl
    rw [nothing] at decoded
    cases decoded
  · exact ⟨fits, refused, same, queried, told⟩

end Site

end GatedResolver
