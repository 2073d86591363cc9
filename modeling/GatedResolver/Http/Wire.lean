import GatedResolver.Http.Message
import GatedResolver.Http.Reason
import GatedResolver.Text.Blank
import GatedResolver.Text.Decimal
import GatedResolver.Text.Split

/-!
# Messages on a connection

A request begins with a line of a method, a target and a version. Lines of headers follow up
to an empty line, and then a body of the length that one of the headers tells. A response
is written in the same form.
-/

namespace GatedResolver.Http.Wire

/-- The method and the target in the first line of a request. -/
def readStart? (line : String) : Option (Method × Target) :=
  match Text.split ' ' (Text.trim line).toList with
  | [method, target, _] => do
    let method ← Method.ofName? (String.ofList method)
    let target ← (Target.ofText (String.ofList target)).toOption
    return (method, target)
  | _ => none

/-- The lower-case letter of a letter of ASCII. -/
def lowerCase (text : List Char) : List Char :=
  text.map Char.toLower

/-- The value of a header in its line, if the line is of the header with a name. -/
def valueOf? (name line : String) : Option String :=
  let characters := line.toList
  if lowerCase (characters.takeWhile (· ≠ ':')) = name.toList then
    some (Text.trim (String.ofList ((characters.dropWhile (· ≠ ':')).drop 1)))
  else none

/-- The length of a body that the lines of headers tell. Without one there is no body. -/
def bodyLength (lines : List String) : Nat :=
  let told := lines.findSome? (valueOf? "content-length")
  (told.bind (Text.readDecimal? 18446744073709551616)).getD 0

/-- The line of a header. -/
def header (name value : String) : String :=
  name ++ ": " ++ value ++ "\r\n"

/-- What stands before the body of a response. -/
def head (response : Response) : String :=
  "HTTP/1.1 " ++ Text.decimal response.status ++ " " ++ reason response.status ++ "\r\n" ++
    (response.contentType.map (header "content-type")).getD "" ++
    (response.allow.map (header "allow")).getD "" ++
    header "content-length" (Text.decimal response.body.length) ++ "\r\n"

/-- The bytes of a response. -/
def write (response : Response) : Bytes :=
  Text.utf8 (head response) ++ response.body

end GatedResolver.Http.Wire
