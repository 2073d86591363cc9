import GatedResolver.Toml.Scalar

/-!
# Documents that stand by themselves

A document can be read for the sake of some settings, where what no setting asks for is
passed over, or by itself, where every part of it counts. By itself it has stricter rules:
its numbers have to fit, and a table that claims to be a date has to be one.
-/

namespace GatedResolver.Toml

/-- The integers that a document may hold by itself. -/
def isPlainInteger (value : Int) : Bool :=
  -9223372036854775808 ≤ value && value ≤ 9223372036854775807

/-- The key of a date in the form of a table. -/
def dateTimeKey : String := "$__toml_private_datetime"

/-- The value of the key of a date, if that is the first key of a table in ascending
order. -/
def Members.claimedDate? (members : Members) : Option Node :=
  if members.any fun (key, _) => key < dateTimeKey then none
  else members.find? dateTimeKey

/-- Whether a value is the text of a date. -/
def Node.isDateText : Node → Bool
  | .string text => isDateTime text.toList
  | _ => false

mutual
/-- Whether a value can stand by itself. In a table that claims to be a date nothing else is
looked at. -/
def Node.isPlain : Node → Bool
  | .integer value => isPlainInteger value
  | .float value => value.isSome
  | .array items => arePlain items
  | .table _ members =>
    match Members.claimedDate? members with
    | some date => date.isDateText
    | none => areMembersPlain members
  | .tables items => arePlain items
  | .string _ | .boolean _ | .dateTime => true

/-- Whether every value of a list can stand by itself. -/
def arePlain : List Node → Bool
  | [] => true
  | item :: rest => item.isPlain && arePlain rest

/-- Whether every value of a table can stand by itself. -/
def areMembersPlain : List (String × Node) → Bool
  | [] => true
  | (_, node) :: rest => node.isPlain && areMembersPlain rest
end

end GatedResolver.Toml
