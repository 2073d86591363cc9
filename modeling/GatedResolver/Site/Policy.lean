import GatedResolver.Policy.Source
import GatedResolver.Site.Basic

/-!
# The site of the policy

The site serves the decision in the policy file as it is at the time of the request.
-/

namespace GatedResolver.Site

open Http (Response)

/-- The response that serves a decision. -/
def serveDecision : Except Failure Policy.Decision → Response
  | .ok decision => .json 200 decision.toJson
  | .error failure => .ofFailure failure

/-- The site of the policy file at a path. -/
def policy (file : String) : Site (StateM FileSystem) := fun path =>
  if path = "/health" then some health
  else if path = "/policy" then
    some { get := some fun _ files => (serveDecision (Policy.readFile files file), files) }
  else none

end GatedResolver.Site
