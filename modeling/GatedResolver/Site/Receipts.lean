import GatedResolver.Http.Segment
import GatedResolver.Receipt.Signer
import GatedResolver.Site.Basic

/-!
# The site of the signer

Records are handed in under one path, and the receipt for a record can be looked up under
the path of its id.
-/

namespace GatedResolver.Site

open Http (Request Response)

/-- The record in a body, or the response to a body without one. -/
def submittedRecord (body : Bytes) : Except Response Json.Value :=
  if body.isEmpty then .error (.badRequest "Missing body")
  else
    match Json.Value.ofText body with
    | .error fault => .error (.badRequest ("Invalid JSON: " ++ fault.message))
    | .ok .null => .error (.badRequest "Missing body")
    | .ok record => .ok record

variable {State : Type}

/-- Make a receipt for the record in a body. -/
def submitRecord (signer : Receipt.Signer State) (body : Bytes) : StateM State Response :=
  fun state =>
    match submittedRecord body with
    | .error refusal => (refusal, state)
    | .ok record =>
      match signer.submit record state with
      | (.ok ticket, stored) => (.json 201 ticket.toJson, stored)
      | (.error failure, stored) => (.ofFailure failure, stored)

/-- The response to a lookup of a receipt. -/
def serveReport : Except Failure (Option Receipt.Report) → Response
  | .ok (some report) => .json 200 report.toJson
  | .ok none => .notFound "Not found"
  | .error failure => .ofFailure failure

/-- Look up the receipt that a segment of a path names. -/
def fetchReport (signer : Receipt.Signer State) (segment : String) : StateM State Response :=
  fun state =>
    match Http.segmentText? segment with
    | some id => (serveReport (signer.report state id), state)
    | none => (.text 400 "Invalid URL: Invalid UTF-8 in \x60id\x60", state)

/-- The site of a signer. -/
def receipts (signer : Receipt.Signer State) : Site (StateM State) := fun path =>
  if path = "/health" then some health
  else if path = "/receipt" then some { post := some (takeBody (submitRecord signer)) }
  else
    (Http.segmentBehind? "/receipt/" path).map fun segment =>
      { get := some fun _ => fetchReport signer segment }

end GatedResolver.Site
