import GatedResolver.Http.Form
import GatedResolver.Http.Message

/-!
# Exchanges

An exchange sends one request to the address of a service and tells what came back. It can
go wrong at any point: no connection, no response, or a body that does not end.
-/

namespace GatedResolver.Remote

/-- A request as it is sent to an address. A body comes with its content type. -/
structure Message where
  method : Http.Method
  url : String
  contentType : Option String := none
  body : Bytes := []
deriving DecidableEq

/-- What came of the body of a response. -/
inductive Arrival where
  /-- All of it arrived. -/
  | whole (body : Bytes)
  /-- It broke off. -/
  | broken
  /-- It did not end in time. -/
  | stalled
deriving DecidableEq

/-- What came of a request. -/
inductive Exchange where
  /-- The service could not be reached, or hung up without a response. -/
  | failed
  /-- No response came in time. -/
  | silent
  /-- A response began. -/
  | answered (status : Nat) (body : Arrival)
deriving DecidableEq

/-- A message that asks for an address. -/
def Message.asking (url : String) : Message :=
  { method := .get, url := url }

/-- A message that carries a JSON document to an address. -/
def Message.carrying (url : String) (document : Json.Value) : Message :=
  { method := .post, url := url, contentType := some Http.jsonType, body := document.compact }

/-- An address with another pair at the end of its query. A fragment stays behind it. -/
def withPair (url : String) (pair : String × String) : String :=
  let characters := url.toList
  let before := characters.takeWhile (· ≠ '#')
  let fragment := characters.dropWhile (· ≠ '#')
  let separator :=
    if before.contains '?' then
      if before.getLast? = some '?' then [] else ['&']
    else ['?']
  String.ofList (before ++ separator ++ (Http.Form.encode [pair]).toList ++ fragment)

/-- An address that names what is asked for. -/
def withName (url : String) (name : String) : String :=
  withPair url ("name", name)

end GatedResolver.Remote
