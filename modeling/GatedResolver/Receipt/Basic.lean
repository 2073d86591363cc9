import GatedResolver.Json.Decode

/-!
# Receipts

A receipt says that a record was handed in at a time. Its signature covers the whole
payload: the id, the time and the record.
-/

namespace GatedResolver.Receipt

/-- What a signature covers. -/
structure Payload where
  id : String
  timestamp : Int64
  record : Json.Value
deriving DecidableEq

namespace Payload

/-- A payload as a JSON value. -/
def toJson (payload : Payload) : Json.Value :=
  .object [("id", .string payload.id), ("timestamp", .ofInt64 payload.timestamp),
    ("payload", payload.record)]

/-- The fields of a payload. -/
def fields : Json.Fields Payload :=
  ((Json.Fields.required "id" .text).both
    ((Json.Fields.required "timestamp" .int64).both
      (Json.Fields.required "payload" .any))).map
      fun (id, timestamp, record) => ⟨id, timestamp, record⟩

/-- Read a payload. -/
def decoder : Json.Decoder Payload :=
  .record "ReceiptPayload" fields

end Payload

/-- A payload with its signature. -/
structure Signed where
  payload : Payload
  signature : String
deriving DecidableEq

namespace Signed

/-- The id that a receipt is kept under. -/
def id (receipt : Signed) : String :=
  receipt.payload.id

/-- A signed receipt as a JSON value. -/
def toJson (receipt : Signed) : Json.Value :=
  .object [("payload", receipt.payload.toJson), ("signature", .string receipt.signature)]

/-- The fields of a signed receipt. -/
def fields : Json.Fields Signed :=
  ((Json.Fields.required "payload" Payload.decoder).both
    (Json.Fields.required "signature" .text)).map
      fun (payload, signature) => ⟨payload, signature⟩

/-- Read a signed receipt. -/
def decoder : Json.Decoder Signed :=
  .record "SignedReceipt" fields

end Signed

/-- What a client gets for a record that it handed in. -/
structure Ticket where
  id : String
  location : String
deriving DecidableEq

namespace Ticket

/-- A ticket as a JSON value. -/
def toJson (ticket : Ticket) : Json.Value :=
  .object [("id", .string ticket.id), ("location", .string ticket.location)]

/-- The fields of a ticket. -/
def fields : Json.Fields Ticket :=
  ((Json.Fields.required "id" .text).both (Json.Fields.required "location" .text)).map
    fun (id, location) => ⟨id, location⟩

/-- Read a ticket. -/
def decoder : Json.Decoder Ticket :=
  .record "ReceiptTicket" fields

end Ticket

/-- A stored receipt as a client sees it: with the verdict on its signature. -/
structure Report where
  receipt : Signed
  verified : Bool
deriving DecidableEq

namespace Report

/-- A report as a JSON value: the members of the receipt, then the verdict. -/
def toJson (report : Report) : Json.Value :=
  .object [("payload", report.receipt.payload.toJson),
    ("signature", .string report.receipt.signature), ("verified", .boolean report.verified)]

/-- The members of a report that were met so far, those of the receipt with the latest
first. -/
structure Draft where
  verified : Option Bool
  collected : List (Json.Token String × Json.Tree)

/-- Read the verdict, or collect a member for the receipt. -/
def take (source : Json.Source) (key : String) (tree : Json.Tree) (draft : Draft) :
    Except Json.Fault Draft :=
  if key = "verified" then
    match draft.verified with
    | some _ => .error (.duplicateField "verified")
    | none =>
      (Json.Decoder.boolean source tree).map fun verified => ⟨some verified, draft.collected⟩
  else
    tree.check.map fun () => ⟨draft.verified, (⟨.ok key, none⟩, tree) :: draft.collected⟩

/-- Read a report from an object that has the verdict beside the members of the receipt. -/
def decoder : Json.Decoder Report
  | source, .object members breach => do
    let draft ←
      Json.takeMembers (fun key tree draft => some (take source key tree draft)) ⟨none, []⟩ members
    Json.raise? (breach.map Json.Breach.whenRead)
    match draft.verified with
    | none => throw (.missingField "verified")
    | some verified =>
      let receipt ← Signed.decoder .collected (.object draft.collected.reverse none)
      return ⟨receipt, verified⟩
  | _, tree => Json.mismatch (.record "StoredReceiptResponse") tree

end Report

end GatedResolver.Receipt
