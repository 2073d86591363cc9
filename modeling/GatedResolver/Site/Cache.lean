import GatedResolver.Cache
import GatedResolver.CacheWrite
import GatedResolver.Http.NameQuery
import GatedResolver.Site.Basic

/-!
# The site of the cache

Under one path an answer can be looked up by name and stored. A request that is refused
leaves the cache as it was, its counters included.
-/

namespace GatedResolver.Site

open Http (Request Response)

/-- The name that a lookup is for, or the response to a lookup without a valid name. -/
def lookupName (query : Option String) : Except Response Name :=
  match Http.queriedName? query with
  | none => .error (.badRequest "Missing name")
  | some text =>
    if text.isEmpty then .error (.badRequest "Missing name")
    else (Name.parse text).mapError Response.ofFailure

/-- Answer a lookup. -/
def lookUp (request : Request) : StateM Cache Response := fun cache =>
  match lookupName request.target.query with
  | .error refusal => (refusal, cache)
  | .ok name =>
    match cache.get name with
    | (some answer, asked) => (.json 200 answer.toJson, asked)
    | (none, asked) => (.notFound "Not found", asked)

/-- What a body asks to store, or the response to a body that asks for nothing valid. -/
def writtenEntry (body : Bytes) : Except Response (Name × Answer) :=
  if body.isEmpty then .error (.badRequest "Missing body")
  else
    match CacheWrite.decoder.decode body with
    | .error fault => .error (.badRequest ("Invalid JSON: " ++ fault.message))
    | .ok write => write.entry.mapError Response.ofFailure

/-- Store what a body asks to store. -/
def storeEntry (body : Bytes) : StateM Cache Response := fun cache =>
  match writtenEntry body with
  | .error refusal => (refusal, cache)
  | .ok (name, answer) =>
    (.json 201 (Http.NoticeKind.cached.toJson name.text), cache.put name answer)

/-- The site of a cache. -/
def cache : Site (StateM Cache) := fun path =>
  if path = "/health" then some health
  else if path = "/cache" then some { get := some lookUp, post := some (takeBody storeEntry) }
  else none

end GatedResolver.Site
