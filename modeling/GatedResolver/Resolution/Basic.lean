import GatedResolver.Answer
import GatedResolver.Name
import GatedResolver.Policy.Decision

/-!
# Resolutions

A resolution is the outcome of asking the resolver about a name: the answer, where it came
from, and the policy decision that was in force.
-/

namespace GatedResolver.Resolution

/-- Where an answer came from. -/
inductive Origin where
  | cache
  | quorum
deriving DecidableEq

namespace Origin

/-- The name of an origin in documents. -/
def text : Origin → String
  | .cache => "cache"
  | .quorum => "upstream-quorum"

/-- The names of all origins. -/
def names : List String :=
  [text .cache, text .quorum]

/-- The origin with a name. -/
def ofText (name : String) : Except Json.Fault Origin :=
  if name = text .cache then .ok .cache
  else if name = text .quorum then .ok .quorum
  else .error (.unknownVariant name names)

/-- The content of an origin that is written as an object has to be `null`. -/
def checkContent : Json.Tree → Except Json.Fault Unit
  | .null => .ok ()
  | tree => Json.mismatch .unit tree

/-- Read an origin from a text: its name, or an object whose only member has that name. -/
def readText : Json.Tree → Except Json.Fault Origin
  | .string token => do ofText (← token.read)
  | .object ((key, content) :: others) breach => do
    let origin ← ofText (← key.read)
    checkContent content
    match others, breach with
    | [], none => return origin
    | [], some .objectUnfinished => throw (.unfinished .object)
    | _, _ => throw .expectedValue
  | .object [] (some breach) => .error breach.whenRead
  | .broken fault => .error fault
  | _ => .error .expectedValue

/-- Read an origin from a value: its name, or an object whose only member has that name. -/
def readValue : Json.Tree → Except Json.Fault Origin
  | .string token => do ofText (← token.read)
  | .object [(key, content)] _ => do
    let origin ← ofText (← key.read)
    checkContent content
    return origin
  | .object _ _ => .error (.wrongValue .map .singleMember)
  | tree => Json.mismatch .variant tree

/-- Read an origin. -/
def decoder : Json.Decoder Origin
  | .text, tree => readText tree
  | _, tree => readValue tree

/-- An origin as a JSON value. -/
def toJson (origin : Origin) : Json.Value :=
  .string origin.text

end Origin

end Resolution

/-- The outcome of asking about a name. -/
structure Resolution where
  name : Name
  policy : Policy.Decision
  answer : Answer
  origin : Option Resolution.Origin
deriving DecidableEq

namespace Resolution

/-- A resolution as a JSON value. -/
def toJson (resolution : Resolution) : Json.Value :=
  .object [("name", resolution.name.toJson), ("policy", resolution.policy.toJson),
    ("answer", resolution.answer.toJson),
    ("source", .ofOption Origin.toJson resolution.origin)]

/-- The fields of a resolution. -/
def fields : Json.Fields Resolution :=
  ((Json.Fields.required "name" Name.decoder).both
    ((Json.Fields.required "policy" Policy.Decision.decoder).both
      ((Json.Fields.required "answer" Answer.decoder).both
        (Json.Fields.optional "source" Origin.decoder)))).map
      fun (name, policy, answer, origin) => ⟨name, policy, answer, origin⟩

/-- Read a resolution. -/
def decoder : Json.Decoder Resolution :=
  .record "ResolutionResult" fields

end Resolution

end GatedResolver
