import GatedResolver.Http.Message

/-!
# Sites

A site has resources under paths; a resource answers requests of some methods. Whatever the
handlers of a site do happens in a monad, so that a site can be joined to any state. A
request for the headers only is answered as one for the whole, less the body.
-/

namespace GatedResolver

open Http (Method Request Response)

/-- What is done with the requests for one resource, method by method. -/
structure Resource (m : Type → Type) where
  get : Option (Request → m Response) := none
  post : Option (Request → m Response) := none

/-- Resources by their paths. -/
abbrev Site (m : Type → Type) := (path : String) → Option (Resource m)

namespace Resource

variable {m : Type → Type}

/-- What is done with a request of a method. -/
def handler? (resource : Resource m) : Method → Option (Request → m Response)
  | .get => resource.get
  | .head => resource.get
  | .post => resource.post
  | .other _ => none

/-- The methods that a resource knows. -/
def methods (resource : Resource m) : List Method :=
  (if resource.get.isSome then [.get, .head] else []) ++
    if resource.post.isSome then [.post] else []

/-- The methods that a resource knows, as a client is told. -/
def allowed (resource : Resource m) : String :=
  ",".intercalate (resource.methods.map Method.name)

/-- A resource whose handlers work in another monad. -/
def lift {n : Type → Type} (embed : m Response → n Response) (resource : Resource m) :
    Resource n :=
  ⟨resource.get.map fun handler => embed ∘ handler,
    resource.post.map fun handler => embed ∘ handler⟩

end Resource

namespace Site

variable {m : Type → Type}

/-- A site whose handlers work in another monad. -/
def lift {n : Type → Type} (embed : m Response → n Response) (site : Site m) : Site n :=
  fun path => (site path).map (Resource.lift embed)

/-- The response for a path without a resource. -/
def noRoute (path : String) : Response :=
  .notFound ("No route for " ++ path)

/-- The response for a method that a resource does not know. -/
def noMethod (resource : Resource m) : Response :=
  { Response.error 405 "Method not allowed" with allow := some resource.allowed }

variable [Monad m]

/-- The response to a request, body and all. -/
def answer (site : Site m) (request : Request) : m Response :=
  match site request.target.path with
  | none => return noRoute request.target.path
  | some resource =>
    match resource.handler? request.method with
    | some handler => handler request
    | none => return noMethod resource

/-- The response to a request. -/
def respond (site : Site m) (request : Request) : m Response := do
  let response ← site.answer request
  return if request.method = .head then response.withoutBody else response

/-- The resource that tells that a service is up. -/
def health : Resource m where
  get := some fun _ => return .text 200 "OK"

/-- The largest body that a service takes, in bytes. -/
def bodyLimit : Nat := 2097152

/-- Hand the body of a request on, unless it is too large. -/
def takeBody (handle : Bytes → m Response) (request : Request) : m Response :=
  if bodyLimit < request.body.length then
    return .text 413 "Failed to buffer the request body: length limit exceeded"
  else handle request.body

end Site

end GatedResolver
