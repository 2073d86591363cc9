import GatedResolver.Failure
import GatedResolver.Http.Notice
import GatedResolver.Http.Target
import GatedResolver.Json.Printer

/-!
# Requests and responses

A request has a method, a target and a body; a response has a status, a body and the few
headers that a client can see. A request whose parts are no method, no target or no header
value cannot be made; what goes wrong with one that can is told in a notice.
-/

namespace GatedResolver.Http

/-- A method of a request. -/
inductive Method where
  | get
  | head
  | post
  | other (name : String)
deriving DecidableEq

namespace Method

/-- The name of a method. -/
def name : Method → String
  | .get => "GET"
  | .head => "HEAD"
  | .post => "POST"
  | .other name => name

/-- Characters of the name of a method. -/
def isNameChar (character : Char) : Bool :=
  character.isAlpha || character.isDigit ||
    ['!', '#', '$', '%', '&', '\'', '*', '+', '-', '.', '^', '_', '\x60', '|', '~'].contains
      character

/-- The method with a name. -/
def ofName? (name : String) : Option Method :=
  if name = "GET" then some .get
  else if name = "HEAD" then some .head
  else if name = "POST" then some .post
  else if name.toList.all isNameChar && !name.isEmpty then some (.other name)
  else none

end Method

/-- Whether a character can stand in the value of a header: a tab, and all that is no
control character of ASCII. -/
def isHeaderChar (character : Char) : Bool :=
  character == '\t' || (0x20 ≤ character.toNat && character.toNat ≠ 0x7F)

/-- A request. -/
structure Request where
  method : Method
  target : Target
  body : Bytes := []
deriving DecidableEq

/-- Why a request cannot be made. -/
inductive RequestFault where
  | method
  | target (fault : TargetFault)
  | headerValue
deriving DecidableEq

/-- A fault of a request in words. -/
def RequestFault.message : RequestFault → String
  | .method => "invalid HTTP method"
  | .target fault => fault.message
  | .headerValue => "failed to parse header value"

/-- The request of a method, a target and a content type in their texts. The content type
is not looked at any further. -/
def Request.ofTexts (method target : String) (contentType : Option String) (body : Bytes) :
    Except RequestFault Request := do
  let some method := Method.ofName? method | throw .method
  let target ← (Target.ofText target).mapError .target
  if contentType.any fun value => !value.toList.all isHeaderChar then throw .headerValue
  return ⟨method, target, body⟩

/-- A response. -/
structure Response where
  status : Nat
  contentType : Option String
  allow : Option String := none
  body : Bytes
deriving DecidableEq

/-- The content type of JSON. -/
def jsonType : String := "application/json"

/-- The content type of plain text. -/
def textType : String := "text/plain; charset=utf-8"

namespace Response

/-- A response with a JSON body. -/
def json (status : Nat) (value : Json.Value) : Response :=
  ⟨status, some jsonType, none, value.compact⟩

/-- A response with a body of plain text. -/
def text (status : Nat) (content : String) : Response :=
  ⟨status, some textType, none, Text.utf8 content⟩

/-- A response that says what went wrong. -/
def error (status : Nat) (message : String) : Response :=
  json status (NoticeKind.error.toJson message)

/-- A request that cannot be understood. -/
def badRequest (message : String) : Response :=
  error 400 message

/-- Something that is not there. -/
def notFound (message : String) : Response :=
  error 404 message

/-- The status that a failure is told with. -/
def failureStatus : Failure → Nat
  | .invalidName _ => 400
  | .invalidRequest _ => 400
  | .unanswered _ => 502
  | .unavailable _ _ => 503
  | .receiptStorage _ => 500
  | .policySource _ => 500
  | .serialization _ => 500

/-- A failure as a response. -/
def ofFailure (failure : Failure) : Response :=
  error (failureStatus failure) failure.message

/-- A response without its body, for those who asked for the headers only. -/
def withoutBody (response : Response) : Response :=
  { response with body := [] }

end Response

end GatedResolver.Http
