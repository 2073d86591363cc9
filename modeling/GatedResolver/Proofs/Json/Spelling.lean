import GatedResolver.Json.Printer
import GatedResolver.Proofs.Json.Values
import GatedResolver.Proofs.Text.Utf8

/-!
# The compact text of a value

The compact writer works backwards on what is written already. `Value.spelled` is the same text
put together from the texts of the parts in their order, and `compact_eq` says that it is the
same; a reader is followed along `Value.spelled`.
-/

namespace GatedResolver.Json

open Text (byte utf8)

/-- A string between its quotes. -/
def spelledString (text : String) : Bytes :=
  0x22 :: (utf8 text).flatMap escapeByte ++ [0x22]

/-- What stands before an item or a member: a comma, unless it is the first. -/
def separator (first : Bool) : Bytes :=
  if first then [] else [byte ',']

mutual
/-- The text of a value without white space. -/
def Value.spelled : Value → Bytes
  | .null => utf8 "null"
  | .boolean true => utf8 "true"
  | .boolean false => utf8 "false"
  | .number value => utf8 value.text
  | .string value => spelledString value
  | .array items => byte '[' :: spelledItems true items
  | .object members => byte '\x7b' :: spelledMembers true members

/-- The text of items with the bracket behind them; `first` says that none stands before
them. -/
def spelledItems (first : Bool) : List Value → Bytes
  | [] => [byte ']']
  | item :: rest => separator first ++ item.spelled ++ spelledItems false rest

/-- The text of members with the brace behind them; `first` says that none stands before
them. -/
def spelledMembers (first : Bool) : List (String × Value) → Bytes
  | [] => [byte '\x7d']
  | (key, value) :: rest =>
    separator first ++ spelledString key ++ byte ':' :: value.spelled ++ spelledMembers false rest
end

/-- A string is written with its quotes. -/
theorem writeString_eq (written : Bytes) (text : String) :
    writeString written text = (spelledString text).reverse ++ written := by
  simp [writeString, writeBytes, spelledString, List.reverseAux_eq]

/-- Bytes are written behind what is written already. -/
theorem writeBytes_eq (written bytes : Bytes) :
    writeBytes written bytes = bytes.reverse ++ written := by
  simp [writeBytes, List.reverseAux_eq]

/-- A comma is written where none stands before. -/
theorem separated_eq (first : Bool) (written : Bytes) :
    (if first then written else byte ',' :: written) = (separator first).reverse ++ written := by
  cases first <;> rfl

/-- Items are written one after the other. -/
theorem writeCompactItems_eq {items : List Value}
    (writes : ∀ item ∈ items, ∀ written,
      writeCompact written item = item.spelled.reverse ++ written)
    (first : Bool) (written : Bytes) :
    byte ']' :: writeCompactItems first written items =
      (spelledItems first items).reverse ++ written := by
  induction items generalizing first written with
  | nil => rfl
  | cons item rest inductionHypothesis =>
    simp only [writeCompactItems]
    rw [separated_eq, writes item List.mem_cons_self,
      inductionHypothesis fun other later => writes other (List.mem_cons_of_mem _ later)]
    simp [spelledItems]

/-- Members are written one after the other. -/
theorem writeCompactMembers_eq {members : List (String × Value)}
    (writes : ∀ member ∈ members, ∀ written,
      writeCompact written member.2 = member.2.spelled.reverse ++ written)
    (first : Bool) (written : Bytes) :
    byte '\x7d' :: writeCompactMembers first written members =
      (spelledMembers first members).reverse ++ written := by
  induction members generalizing first written with
  | nil => rfl
  | cons member rest inductionHypothesis =>
    obtain ⟨key, value⟩ := member
    simp only [writeCompactMembers]
    rw [separated_eq, writeString_eq, writes (key, value) List.mem_cons_self,
      inductionHypothesis fun other later => writes other (List.mem_cons_of_mem _ later)]
    simp [spelledMembers]

/-- The compact writer writes the text of a value. -/
theorem writeCompact_eq (value : Value) (written : Bytes) :
    writeCompact written value = value.spelled.reverse ++ written := by
  induction value using Value.induction generalizing written with
  | null => simp [writeCompact, writeScalar, writeBytes_eq, Value.spelled]
  | boolean value => cases value <;> simp [writeCompact, writeScalar, writeBytes_eq, Value.spelled]
  | number value => simp [writeCompact, writeScalar, writeBytes_eq, Value.spelled]
  | string value => simp [writeCompact, writeScalar, writeString_eq, Value.spelled]
  | array items inductionHypothesis =>
    rw [writeCompact, writeCompactItems_eq inductionHypothesis]
    simp [Value.spelled]
  | object members inductionHypothesis =>
    rw [writeCompact, writeCompactMembers_eq inductionHypothesis]
    simp [Value.spelled]

/-- The compact text of a value is put together from the texts of its parts. -/
theorem compact_eq (value : Value) : value.compact = value.spelled := by
  rw [Value.compact, writeCompact_eq, List.append_nil, List.reverse_reverse]

/-- A string is no shorter between its quotes. -/
theorem size_le_spelledString (text : String) : text.utf8ByteSize ≤ (spelledString text).length := by
  have escaped : (utf8 text).length ≤ ((utf8 text).flatMap escapeByte).length := by
    refine Text.length_le_flatMap (fun octet => ?_) _
    simp only [escapeByte]
    repeat' split
    all_goals simp
  rw [Text.length_utf8] at escaped
  simp only [spelledString, List.length_append, List.length_cons]
  omega

/-- The text of the value of a member is part of the text of the members. -/
theorem length_spelled_le_of_mem_members {members : List (String × Value)}
    {member : String × Value} (belongs : member ∈ members) (first : Bool) :
    member.2.spelled.length ≤ (spelledMembers first members).length := by
  induction members generalizing first with
  | nil => cases belongs
  | cons other rest inductionHypothesis =>
    simp only [spelledMembers, List.length_append, List.length_cons]
    rcases List.mem_cons.mp belongs with rfl | later
    · omega
    · have shorter := inductionHypothesis later false
      omega

/-- The text of an object is longer than that of each value in it. -/
theorem length_spelled_lt_of_mem {members : List (String × Value)} (key : String) {value : Value}
    (belongs : (key, value) ∈ members) :
    value.spelled.length < (Value.object members).spelled.length := by
  rw [Value.spelled, List.length_cons]
  exact Nat.lt_succ_of_le (length_spelled_le_of_mem_members belongs true)

end GatedResolver.Json
