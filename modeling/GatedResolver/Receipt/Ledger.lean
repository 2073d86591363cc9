import GatedResolver.Failure
import GatedResolver.FileSystem
import GatedResolver.Json.Printer
import GatedResolver.Receipt.Basic
import GatedResolver.Table

/-!
# Ledgers

A ledger keeps signed receipts by their ids. One kind keeps them in memory, the other as
one file for each receipt in a directory. Both work on a state of their own and offer the
same two operations.
-/

namespace GatedResolver.Receipt

/-- Keeping receipts in a state. -/
structure Ledger (State : Type) where
  /-- Keep a receipt under its id, and say where it is. -/
  store : State → Signed → Except Failure String × State
  /-- The receipt that is kept under an id. -/
  fetch : State → String → Except Failure (Option Signed)

/-- The receipts that are kept in memory, by id. -/
abbrev Memory := Table String Signed

/-- The ledger in memory. -/
def memoryLedger : Ledger Memory where
  store memory receipt :=
    (.ok ("memory://receipt-" ++ receipt.id), memory.set receipt.id receipt)
  fetch memory id := .ok (memory.find? id)

/-- A store into memory changes what is fetched under the id of the receipt and nothing
else. -/
@[simp] theorem fetch_store_memoryLedger (memory : Memory) (receipt : Signed) (id : String) :
    memoryLedger.fetch (memoryLedger.store memory receipt).2 id =
      if id = receipt.id then .ok (some receipt) else memoryLedger.fetch memory id := by
  simp only [memoryLedger, Table.find?_set]
  split <;> rfl

/-- Whether a text can be the id of a receipt in a file: hexadecimal digits and dashes, at
least one of them. -/
def isFileId (id : String) : Bool :=
  !id.isEmpty && id.toList.all fun character =>
    character.isDigit || ('a' ≤ character && character ≤ 'f') ||
      ('A' ≤ character && character ≤ 'F') || character == '-'

/-- The name of the file of a receipt. -/
def fileName (id : String) : String :=
  "receipt-" ++ id ++ ".json"

/-- The file of a receipt in a directory. Other ids than those of files are refused. -/
def pathFor (directory id : String) : Except Failure String :=
  if isFileId id then .ok (FileSystem.pathIn directory (fileName id))
  else .error (.invalidRequest ("invalid receipt id: " ++ id))

/-- Write a receipt into its file in a directory, which is created if it is missing. -/
def storeFile (directory : String) (files : FileSystem) (receipt : Signed) :
    Except Failure String × FileSystem :=
  match pathFor directory receipt.id with
  | .error failure => (.error failure, files)
  | .ok path =>
    match files.createDirectories directory with
    | (.error fault, prepared) =>
      (.error (.receiptStorage ("cannot create " ++ directory ++ ": " ++ fault.message)), prepared)
    | (.ok (), prepared) =>
      match prepared.write path receipt.toJson.indented with
      | .error fault =>
        (.error (.receiptStorage ("cannot write " ++ path ++ ": " ++ fault.message)), prepared)
      | .ok written => (.ok path, written)

/-- Read a receipt from its file in a directory. -/
def fetchFile (directory : String) (files : FileSystem) (id : String) :
    Except Failure (Option Signed) := do
  let path ← pathFor directory id
  match files.read path with
  | .ok content =>
    match Signed.decoder.decode content with
    | .ok receipt => return some receipt
    | .error fault => throw (.serialization (fault.message))
  | .error .notFound => return none
  | .error fault => throw (.receiptStorage ("cannot read " ++ path ++ ": " ++ fault.message))

/-- The ledger in the files of a directory. -/
def fileLedger (directory : String) : Ledger FileSystem where
  store := storeFile directory
  fetch := fetchFile directory

end GatedResolver.Receipt
