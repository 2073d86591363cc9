import GatedResolver.Json.Decode

/-!
# Notices

A notice is a JSON object with one member, a text. What goes wrong is told in a notice, and
so is what was stored.
-/

namespace GatedResolver.Http

/-- A kind of notices: the key of the member, and what a record of the kind is called. -/
structure NoticeKind where
  key : String
  record : String
deriving DecidableEq

namespace NoticeKind

/-- What went wrong. -/
def error : NoticeKind := ⟨"error", "ErrorResponse"⟩

/-- The name that was stored. -/
def cached : NoticeKind := ⟨"cached", "CachedResponse"⟩

/-- A notice as a JSON value. -/
def toJson (kind : NoticeKind) (text : String) : Json.Value :=
  .object [(kind.key, .string text)]

/-- Read the text of a notice. -/
def decoder (kind : NoticeKind) : Json.Decoder String :=
  .record kind.record (Json.Fields.required kind.key .text)

end NoticeKind

end GatedResolver.Http
