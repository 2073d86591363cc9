import GatedResolver.Proofs.Http.Queries
import GatedResolver.Proofs.Site.Register
import GatedResolver.Site.FrontDoor
import GatedResolver.Site.Quorum

/-!
# Sites that are asked for a name

Three sites work on the name in the query string of a request. All of them draw the line at the
same query strings: where one has a valid name, all of them work on that name; otherwise a resolver
and a panel take the default name, and the cache refuses the request.
-/

namespace GatedResolver.Site

open Http (Nameless Request Response lenientName parsedName? queriedName? strictName)
open Http.Form (IsCut Pairs encode)

section Requests

variable {request : Request} (asks : request.method = .get)
include asks

/-- A resolver resolves the name in a request, or the default. -/
theorem frontDoor_get {m : Type → Type} [Monad m] [LawfulMonad m]
    (resolve : Name → m Resolver.Outcome) (fallback : Name)
    (path : request.target.path = "/resolve" ∨ request.target.path = "/dns-query") :
    (frontDoor resolve fallback).respond request =
      serveOutcome <$> resolve (Http.nameOr request.target.query fallback) := by
  have answered : (frontDoor resolve fallback).answer request =
      resolveQueried resolve fallback request := by
    obtain ⟨method, ⟨path, query⟩, body⟩ := request
    cases asks
    rcases path with same | same <;> cases same <;> rfl
  rw [respond, answered, resolveQueried, asks]
  simp

/-- A panel replies about the name in a request, or about the default. -/
theorem quorum_get {m : Type → Type} [Monad m] [LawfulMonad m] (panel : Quorum.Panel)
    (fallback : Name) (path : request.target.path = "/query") :
    (quorum (m := m) panel fallback).respond request =
      pure (.json 200 (panel.reply (Http.nameOr request.target.query fallback)).toJson) := by
  obtain ⟨method, ⟨path, query⟩, body⟩ := request
  cases asks
  cases path
  have answered : (quorum (m := m) panel fallback).answer ⟨.get, ⟨"/query", query⟩, body⟩ =
      pure (.json 200 (panel.reply (Http.nameOr query fallback)).toJson) := rfl
  rw [respond, answered]
  simp

/-- The cache refuses a lookup without a valid name and stays as it is. -/
theorem cache_get_of_nameless (nameless : Nameless request.target.query)
    (path : request.target.path = "/cache") (cache : Cache) :
    (Site.cache.respond request cache).1.status = 400 ∧
      (Site.cache.respond request cache).2 = cache := by
  rw [respond_get cache asks path, lookUp]
  cases looked : lookupName request.target.query with
  | error refusal => exact ⟨status_of_lookupName looked, rfl⟩
  | ok name =>
    have parsed := Http.parsedName?_eq_some_iff.mpr (lookupName_eq_ok_iff.mp looked)
    rw [Http.nameless_iff.mp nameless] at parsed
    cases parsed

/-- The cache looks up the name in a request. -/
theorem cache_get_of_name {name : Name}
    (queried : queriedName? request.target.query = some name.text)
    (path : request.target.path = "/cache") (cache : Cache) :
    Site.cache.respond request cache =
      (match cache.find? name with
        | some answer => .json 200 answer.toJson
        | none => .notFound "Not found", (cache.get name).2) := by
  rw [respond_get cache asks path, lookUp, lookupName_eq_ok_iff.mpr queried]
  obtain ⟨counted, got⟩ : ∃ counted, cache.get name = (cache.find? name, counted) :=
    ⟨_, rfl⟩
  cases found : cache.find? name with
  | some answer => simp only [got, found]
  | none => simp only [got, found]

/-- The cache refuses exactly the lookups without a valid name. -/
theorem status_cache_get_iff (path : request.target.path = "/cache") (cache : Cache) :
    (Site.cache.respond request cache).1.status = 400 ↔ Nameless request.target.query := by
  refine ⟨fun refused => Http.nameless_iff_forall.mpr fun name queried => ?_,
    fun nameless => (cache_get_of_nameless asks nameless path cache).1⟩
  rw [cache_get_of_name asks queried path] at refused
  cases found : cache.find? name <;> rw [found] at refused <;> cases refused

end Requests

/-- How a name is found in a query string, and what becomes of it. Every query string is read, so a
reader that refuses one that is not and a reader that takes it for one without a name find the same
name: the value of the first part whose key is `name`. A name comes back that is encoded behind pairs
with other keys, whatever comes behind it, be it encoded or not. A request whose query string has a
valid name is resolved, replied to by a panel and looked up in the cache under that name; one whose
query string has none is taken for the default name by a resolver and by a panel, and these are the
requests that the cache refuses, and that leave it as it is. -/
theorem name_of_query :
    (∀ Fault query, (strictName query : Except Fault (Option String)) = .ok (queriedName? query) ∧
      lenientName Fault query = queriedName? query) ∧
    queriedName? none = none ∧
    (∀ query, ∃ parts, IsCut query parts) ∧
    (∀ query parts, IsCut query parts →
      (∀ value, queriedName? (some query) = some value ↔
        ∃ earlier part later, parts = earlier ++ part :: later ∧ Pairs part "name" value ∧
          ∀ other ∈ earlier, ∀ text, ¬ Pairs other "name" text) ∧
      (queriedName? (some query) = none ↔ ∀ part ∈ parts, ∀ text, ¬ Pairs part "name" text)) ∧
    (∀ (name : Name) before, (∀ pair ∈ before, pair.1 ≠ "name") →
      (∀ after, parsedName? (some (encode (before ++ ("name", name.text) :: after))) = some name) ∧
      ∀ rest, parsedName? (some (encode (before ++ [("name", name.text)]) ++ "&" ++ rest)) =
        some name) ∧
    ∀ request : Request, request.method = .get →
      let query := request.target.query
      (Nameless query ↔ ∀ name : Name, queriedName? query ≠ some name.text) ∧
      (∀ (m : Type → Type) [Monad m] [LawfulMonad m] (resolve : Name → m Resolver.Outcome) fallback,
        request.target.path = "/resolve" ∨ request.target.path = "/dns-query" →
        (∀ name : Name, queriedName? query = some name.text →
          (frontDoor resolve fallback).respond request = serveOutcome <$> resolve name) ∧
        (Nameless query →
          (frontDoor resolve fallback).respond request = serveOutcome <$> resolve fallback)) ∧
      (∀ (m : Type → Type) [Monad m] [LawfulMonad m] panel fallback,
        request.target.path = "/query" →
        (∀ name : Name, queriedName? query = some name.text →
          (quorum (m := m) panel fallback).respond request =
            pure (.json 200 (panel.reply name).toJson)) ∧
        (Nameless query → (quorum (m := m) panel fallback).respond request =
          pure (.json 200 (panel.reply fallback).toJson))) ∧
      ∀ cache : Cache, request.target.path = "/cache" →
        (∀ name : Name, queriedName? query = some name.text → Site.cache.respond request cache =
          (match cache.find? name with
            | some answer => .json 200 answer.toJson
            | none => .notFound "Not found", (cache.get name).2)) ∧
        ((Site.cache.respond request cache).1.status = 400 ↔ Nameless query) ∧
        (Nameless query → (Site.cache.respond request cache).2 = cache) := by
  refine ⟨fun Fault query => ⟨Http.strictName_eq query, Http.lenientName_eq Fault query⟩, rfl,
    fun query => ⟨_, Http.Form.isCut_iff.mpr rfl⟩, ?found, ?encoded, ?asked⟩
  case found =>
    intro query parts cut
    exact ⟨fun value => Http.queriedName?_eq_some_iff cut, Http.queriedName?_eq_none_iff cut⟩
  case encoded =>
    intro name before others
    refine ⟨fun after => ?_, fun rest => ?_⟩
    · exact Http.parsedName?_eq_some_iff.mpr (Http.queriedName?_encode_append others _ after)
    · exact Http.parsedName?_eq_some_iff.mpr (Http.queriedName?_encode_text others _ rest)
  case asked =>
    intro request asks query
    refine ⟨Http.nameless_iff_forall, ?resolves, ?replies, fun cache path => ?looks⟩
    case resolves =>
      intro m _ _ resolve fallback path
      rw [frontDoor_get asks resolve fallback path]
      exact ⟨fun name queried => by rw [Http.nameOr_of_queried queried],
        fun nameless => by rw [Http.nameOr_of_nameless nameless]⟩
    case replies =>
      intro m _ _ panel fallback path
      rw [quorum_get asks panel fallback path]
      exact ⟨fun name queried => by rw [Http.nameOr_of_queried queried],
        fun nameless => by rw [Http.nameOr_of_nameless nameless]⟩
    case looks =>
      exact ⟨fun name queried => cache_get_of_name asks queried path cache,
        status_cache_get_iff asks path cache,
        fun nameless => (cache_get_of_nameless asks nameless path cache).2⟩

/-- A key and a value that are written with escapes, behind another pair and before a second
name. -/
theorem name_of_query_escaped :
    let query := "other=1&n%61me=caf%C3%A9.test&name=b.test"
    let name : Name := ⟨"caf\u00e9.test", by decide⟩
    queriedName? (some query) = some name.text ∧
      Site.cache.respond ⟨.get, ⟨"/cache", some query⟩, []⟩ .empty =
        (.notFound "Not found", (Cache.empty.get name).2) ∧
      parsedName? (some (encode [("a b", "&"), ("name", name.text), ("name", "b.test")])) =
        some name := by
  intro query name
  have queried : queriedName? (some query) = some name.text := by decide +kernel
  obtain ⟨-, -, -, -, encoded, asked⟩ := name_of_query
  obtain ⟨-, -, -, looks⟩ := asked ⟨.get, ⟨"/cache", some query⟩, []⟩ rfl
  exact ⟨queried, (looks .empty rfl).1 name queried,
    (encoded name [("a b", "&")] (by simp)).1 [("name", "b.test")]⟩

end GatedResolver.Site
