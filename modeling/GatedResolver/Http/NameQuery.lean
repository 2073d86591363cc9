import GatedResolver.Http.Form
import GatedResolver.Name

/-!
# Names in query strings

A request names what it asks about in its query string, as the first value of the key
`name`. A front door falls back to a default where the name is missing or is no name.
-/

namespace GatedResolver.Http

/-- The value of a key among pairs, the first one if there are several. -/
def firstValue? (key : String) : List (String × String) → Option String
  | [] => none
  | (otherKey, value) :: rest => if otherKey = key then some value else firstValue? key rest

/-- The name in a query string, as it was written. -/
def queriedName? (query : Option String) : Option String :=
  query.bind fun text => firstValue? "name" (Form.decode text)

/-- The name in a query string whose keys and values are read as texts. One that is not read is
refused. -/
def strictName {Fault : Type} : Option String → Except Fault (Option String)
  | none => .ok none
  | some query => do return firstValue? "name" (← Form.read .ok .ok query)

/-- The name in a query string whose keys and values are read as texts. One that is not read has no
name. -/
def lenientName (Fault : Type) (query : Option String) : Option String :=
  match (strictName query : Except Fault (Option String)) with
  | .ok name => name
  | .error _ => none

/-- The name in a query string, if it is a name. -/
def parsedName? (query : Option String) : Option Name :=
  (queriedName? query).bind Name.ofText?

/-- The name in a query string, or a default. -/
def nameOr (query : Option String) (fallback : Name) : Name :=
  (parsedName? query).getD fallback

end GatedResolver.Http
