import GatedResolver.Resolver.Stage
import GatedResolver.Stream.Envelope
import GatedResolver.Text.Blank
import GatedResolver.Text.Control
import GatedResolver.Text.Utf8

/-!
# The stream listener

The second front door takes bytes as they come: one read for each connection, and one line
back. Bytes that spell a name have that name resolved before the line is sent, but the line
does not depend on it.
-/

namespace GatedResolver.Stream

/-- The most bytes that are read from a connection. -/
def readLimit : Nat := 1024

/-- Whether a character may stand in a name that comes as plain bytes. -/
def isNameChar (character : Char) : Bool :=
  !Text.isBlank character && !Text.isControl character

/-- The name that bytes spell: a single word of UTF-8, blanks around it aside. -/
def spelledName? (bytes : Bytes) : Option Name :=
  match Text.decodeUtf8? bytes with
  | none => none
  | some text =>
    let word := Text.trim text
    if word.toList.all isNameChar then Name.ofText? word else none

variable {m : Type → Type} [Monad m]

/-- Have the name that bytes spell resolved, if there is a resolver. The outcome is of no
interest. -/
def resolveSpelled (resolve : Option (Name → m Resolver.Outcome)) (bytes : Bytes) : m Unit :=
  match resolve, spelledName? bytes with
  | some resolve, some name => do
    let _ ← resolve name
  | _, _ => return ()

/-- The reply to what a connection delivers in one read. A connection that delivers nothing
gets nothing. -/
def reply (resolve : Option (Name → m Resolver.Outcome)) (timestamp : m Int64)
    (payload : Bytes) : m (Option Bytes) := do
  let bytes := payload.take readLimit
  if bytes.isEmpty then return none
  else
    resolveSpelled resolve bytes
    return some (Envelope.ofCount bytes.length (← timestamp)).line

end GatedResolver.Stream
