import GatedResolver.Failure
import GatedResolver.Json.Decode
import GatedResolver.Text.Control

/-!
# Names

A name is what a client asks about: any text that is not empty and has no control
character. Names are compared as they are written.
-/

namespace GatedResolver

/-- Why a text is no name. -/
inductive NameFault where
  | empty
  | controlCharacter
deriving DecidableEq

/-- The fault of a name in words. -/
def NameFault.message : NameFault → String
  | .empty => "name cannot be empty"
  | .controlCharacter => "name cannot contain control characters"

/-- What is wrong with a text as a name. -/
def nameFault? (text : String) : Option NameFault :=
  if text.isEmpty then some .empty
  else if text.toList.any Text.isControl then some .controlCharacter
  else none

/-- A name that can be asked about. -/
structure Name where
  text : String
  valid : nameFault? text = none
deriving DecidableEq

namespace Name

/-- Take a text as a name. -/
def ofText (text : String) : Except NameFault Name :=
  match valid : nameFault? text with
  | none => .ok ⟨text, valid⟩
  | some fault => .error fault

/-- Take a text as a name if it is one. -/
def ofText? (text : String) : Option Name :=
  (ofText text).toOption

/-- Take a text as a name, where the failure is told to a client. -/
def parse (text : String) : Except Failure Name :=
  (ofText text).mapError fun fault => .invalidName fault.message

/-- A name as a JSON value. -/
def toJson (name : Name) : Json.Value :=
  .string name.text

/-- Read a name from a string. -/
def decoder : Json.Decoder Name :=
  Json.Decoder.check (fun text => (parse text).mapError Failure.message) Json.Decoder.text

/-- A text is a name exactly when it has no fault. -/
theorem ofText?_eq_some_iff {text : String} {name : Name} :
    ofText? text = some name ↔ name.text = text := by
  rcases name with ⟨nameText, nameValid⟩
  unfold ofText? ofText
  constructor
  · intro found
    split at found
    · cases found; rfl
    · cases found
  · intro equal
    cases equal
    split
    · rfl
    · rename_i fault faulty
      rw [nameValid] at faulty
      cases faulty

/-- The text of a name is read as that name. -/
@[simp] theorem ofText_text (name : Name) : ofText name.text = .ok name := by
  rcases name with ⟨text, valid⟩
  unfold ofText
  split
  · rfl
  · rename_i fault faulty
    rw [valid] at faulty
    cases faulty

@[simp] theorem parse_text (name : Name) : parse name.text = .ok name := by
  rw [parse, ofText_text]
  rfl

end Name

end GatedResolver
