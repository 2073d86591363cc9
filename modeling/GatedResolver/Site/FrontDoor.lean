import GatedResolver.Http.NameQuery
import GatedResolver.Resolver.Stage
import GatedResolver.Site.Basic

/-!
# The front door

The front door resolves the name in a request. A request without a valid name is taken as a
request for the default name.
-/

namespace GatedResolver.Site

open Http (Request Response)

/-- The response that serves the outcome of a request. -/
def serveOutcome : Resolver.Outcome → Response
  | .ok resolution => .json 200 resolution.toJson
  | .error failure => .ofFailure failure

variable {m : Type → Type} [Monad m]

/-- Resolve the name in a request. -/
def resolveQueried (resolve : Name → m Resolver.Outcome) (defaultName : Name)
    (request : Request) : m Response := do
  return serveOutcome (← resolve (Http.nameOr request.target.query defaultName))

/-- The site of a resolver. -/
def frontDoor (resolve : Name → m Resolver.Outcome) (defaultName : Name) : Site m := fun path =>
  if path = "/health" then some health
  else if path = "/resolve" ∨ path = "/dns-query" then
    some { get := some (resolveQueried resolve defaultName) }
  else none

end GatedResolver.Site
