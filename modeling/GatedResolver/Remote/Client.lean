import GatedResolver.Http.Reason
import GatedResolver.Quorum.Reply
import GatedResolver.Receipt.Basic
import GatedResolver.Remote.Exchange
import GatedResolver.Resolution.Basic
import GatedResolver.CacheWrite

/-!
# Clients of remote services

A client asks one remote service and reads its responses. A response that cannot be used,
whether because it is missing, has the wrong status or does not decode, is a failure of the
service under the label of the client; only the cache may say with a status that it has no
answer.
-/

namespace GatedResolver.Remote

/-- The service that a client asks: its label, its address, and how long the client waits
for it. -/
structure Client where
  label : String
  url : String
  limitMs : Nat
deriving DecidableEq

namespace Client

/-- The failure of the service of a client. -/
def failure (client : Client) (reason : String) : Failure :=
  .unavailable client.label reason

/-- The status and the body of a response, if one began. -/
def received (client : Client) (message : Message) :
    Exchange → Except Failure (Nat × Arrival)
  | .failed =>
    .error (client.failure ("request to " ++ client.url ++
      " failed: error sending request for url (" ++ message.url ++ ")"))
  | .silent =>
    .error (client.failure ("timeout after " ++ Text.decimal client.limitMs ++
      "ms calling " ++ client.url))
  | .answered status body => .ok (status, body)

/-- The failure of a response with the wrong status. -/
def wrongStatus (client : Client) (status : Nat) : Failure :=
  client.failure (client.url ++ " returned HTTP " ++ Text.decimal status ++ ": " ++
    Http.reason status)

/-- The value in the body of a response. -/
def decoded {α : Type} (client : Client) (decoder : Json.Decoder α) :
    Arrival → Except Failure α
  | .stalled => .error (client.failure ("timeout reading response from " ++ client.url))
  | .broken =>
    .error (client.failure ("malformed response from " ++ client.url ++
      ": error decoding response body"))
  | .whole body =>
    (decoder.decode body).mapError fun _ =>
      client.failure ("malformed response from " ++ client.url ++
        ": error decoding response body")

/-- The value in a response, which has to be a success. -/
def value {α : Type} (client : Client) (decoder : Json.Decoder α) (message : Message)
    (exchange : Exchange) : Except Failure α := do
  let (status, body) ← client.received message exchange
  if Http.isSuccess status then client.decoded decoder body
  else throw (client.wrongStatus status)

/-- The value in a response, or none if the response says that there is none. -/
def valueIfFound {α : Type} (client : Client) (decoder : Json.Decoder α) (message : Message)
    (exchange : Exchange) : Except Failure (Option α) := do
  let (status, body) ← client.received message exchange
  if status = 404 then return none
  else if Http.isSuccess status then some <$> client.decoded decoder body
  else throw (client.wrongStatus status)

/-- Whether a response is a success, whatever is in it. -/
def accepted (client : Client) (message : Message) (exchange : Exchange) :
    Except Failure Unit := do
  let (status, _) ← client.received message exchange
  if Http.isSuccess status then return ()
  else throw (client.wrongStatus status)

end Client

/-- The client of a policy service. -/
def policyClient (url : String) (limitMs : Nat) : Client := ⟨"policy gate", url, limitMs⟩

/-- The client of a cache service. -/
def cacheClient (url : String) (limitMs : Nat) : Client := ⟨"cache", url, limitMs⟩

/-- The client of a quorum service. -/
def quorumClient (url : String) (limitMs : Nat) : Client := ⟨"upstream quorum", url, limitMs⟩

/-- The client of a receipt service. -/
def receiptClient (url : String) (limitMs : Nat) : Client := ⟨"receipt ledger", url, limitMs⟩

section Calls

variable {m : Type → Type} [Monad m] (send : Message → m Exchange) (client : Client)

/-- Ask a policy service for the decision. -/
def askPolicy : m (Except Failure Policy.Decision) := do
  let message := Message.asking client.url
  return client.value Policy.Decision.decoder message (← send message)

/-- Ask a cache service for a name. -/
def askCache (name : Name) : m (Except Failure (Option Answer)) := do
  let message := Message.asking (withName client.url name.text)
  return client.valueIfFound Answer.decoder message (← send message)

/-- Store an answer at a cache service. -/
def fillCache (name : Name) (answer : Answer) : m (Except Failure Unit) := do
  let message := Message.carrying client.url (CacheWrite.toJson name answer)
  return client.accepted message (← send message)

/-- Ask a quorum service about a name. -/
def askQuorum (name : Name) : m (Except Failure Quorum.Reply) := do
  let message := Message.asking (withName client.url name.text)
  return client.value Quorum.Reply.decoder message (← send message)

/-- Hand a resolution in at a receipt service. -/
def submitReceipt (resolution : Resolution) : m (Except Failure Receipt.Ticket) := do
  let message := Message.carrying client.url resolution.toJson
  return client.value Receipt.Ticket.decoder message (← send message)

end Calls

end GatedResolver.Remote
