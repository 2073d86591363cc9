import GatedResolver.Answer
import GatedResolver.Name

/-!
# Writing to the cache from outside

A client stores an answer by sending a document with a name and a record. Both members are
looked for first; only then is the name checked, and the record after it.
-/

namespace GatedResolver

/-- A document that asks to store an answer, as far as it was looked at. -/
structure CacheWrite where
  name : Option String
  record : Option Json.Value
deriving DecidableEq

namespace CacheWrite

/-- The fields of the document. -/
def fields : Json.Fields CacheWrite :=
  ((Json.Fields.optional "name" .text).both (Json.Fields.optional "record" .any)).map
    fun (name, record) => ⟨name, record⟩

/-- Read the document. -/
def decoder : Json.Decoder CacheWrite :=
  .record "StoreRecordRequest" fields

/-- The document that stores an answer. -/
def toJson (name : Name) (answer : Answer) : Json.Value :=
  .object [("name", name.toJson), ("record", answer.toJson)]

/-- The name and the answer to store. -/
def entry (write : CacheWrite) : Except Failure (Name × Answer) := do
  match write.name, write.record with
  | some text, some record => do
    if record = .null then throw (.invalidRequest "Missing name or record")
    let name ← Name.parse text
    match Answer.decoder.decodeValue record with
    | .ok answer => return (name, answer)
    | .error fault =>
      throw (.invalidRequest ("Invalid record: " ++ fault.message))
  | _, _ => throw (.invalidRequest "Missing name or record")

end CacheWrite

end GatedResolver
