import GatedResolver.Proofs.Json.Documents

/-!
# Values told apart by their texts

No two values have the same compact text (`compact_injective`). The first byte of a text tells the
kind of the value, and the text of each part tells the part and where it ends, whatever stands
behind it: a string ends at its quote, a number where no byte goes on with it, items and members at
their bracket. No number has to be read as itself for that: its numeral tells it.
-/

namespace GatedResolver.Json

open Text (byte utf8)

/-- What the first byte of a text tells about a value. -/
inductive Kind where
  | null
  | boolean
  | number
  | string
  | array
  | object
deriving DecidableEq

/-- The kind of a value. -/
def Value.kind : Value → Kind
  | .null => .null
  | .boolean _ => .boolean
  | .number _ => .number
  | .string _ => .string
  | .array _ => .array
  | .object _ => .object

/-- The kind of the values whose text starts with a byte. -/
def kindOf (octet : UInt8) : Kind :=
  if octet = 0x6E then .null
  else if octet = 0x66 ∨ octet = 0x74 then .boolean
  else if octet = 0x22 then .string
  else if octet = 0x5B then .array
  else if octet = 0x7B then .object
  else .number

/-- The first byte of a text tells the kind of the value. -/
theorem kindOf_spelled (value : Value) :
    ∃ head tail, value.spelled = head :: tail ∧ kindOf head = value.kind := by
  cases value with
  | null => exact ⟨_, _, rfl, rfl⟩
  | boolean value => cases value <;> exact ⟨_, _, rfl, rfl⟩
  | number value =>
    obtain ⟨head, tail, text, starts⟩ := utf8_text_cons value
    obtain ⟨-, noQuote, noArray, -, noObject⟩ := startsNumber_apart starts
    have noLetter : head ≠ 0x6E ∧ head ≠ 0x66 ∧ head ≠ 0x74 := by
      refine ⟨?_, ?_, ?_⟩ <;> rintro rfl <;> cases starts
    obtain ⟨noNull, noFalse, noTrue⟩ := noLetter
    exact ⟨head, tail, text, by
      simp [kindOf, Value.kind, noNull, noFalse, noTrue, noQuote, noArray, noObject]⟩
  | string value => exact ⟨_, _, rfl, rfl⟩
  | array items => exact ⟨_, _, rfl, rfl⟩
  | object members => exact ⟨_, _, rfl, rfl⟩

/-- Values whose texts start in the same way are of the same kind. -/
theorem kind_eq_of_spelled {left right : Value} {leftRest rightRest : Bytes}
    (same : left.spelled ++ leftRest = right.spelled ++ rightRest) : left.kind = right.kind := by
  obtain ⟨leftHead, leftTail, leftText, leftKind⟩ := kindOf_spelled left
  obtain ⟨rightHead, rightTail, rightText, rightKind⟩ := kindOf_spelled right
  rw [leftText, rightText, List.cons_append, List.cons_append] at same
  rw [← leftKind, ← rightKind, (List.cons.inj same).1]

/-- A string is told by its text, with what stands behind it. -/
theorem spelledString_inj {left right : String} {leftRest rightRest : Bytes}
    (same : spelledString left ++ leftRest = spelledString right ++ rightRest) :
    left = right ∧ leftRest = rightRest := by
  simp only [spelledString, List.cons_append, List.append_assoc, List.cons.injEq, true_and] at same
  have scanned := congrArg (scanString ⟨[], none, none⟩) same
  simp only [List.nil_append, scanString_text] at scanned
  simpa using scanned

/-- A number is told by its text, with what stands behind it. -/
theorem number_inj {left right : Number} {leftRest rightRest : Bytes}
    (leftEnds : EndsNumeral leftRest) (rightEnds : EndsNumeral rightRest)
    (same : utf8 left.text ++ leftRest = utf8 right.text ++ rightRest) :
    left = right ∧ leftRest = rightRest := by
  rw [left.utf8_text, right.utf8_text] at same
  have scanned := congrArg scanNumeral same
  rw [Numeral.scanNumeral_spelled leftEnds left.wellFormed_numeral,
    Numeral.scanNumeral_spelled rightEnds right.wellFormed_numeral] at scanned
  injection scanned with numerals rests
  exact ⟨Number.numeral_injective numerals, rests⟩

/-- A value is told by its text, with what stands behind it. -/
def Value.Told (value : Value) : Prop :=
  ∀ other rest otherRest, EndsNumeral rest → EndsNumeral otherRest →
    value.spelled ++ rest = other.spelled ++ otherRest → value = other ∧ rest = otherRest

/-- Behind an item comes a comma or a closing bracket. -/
theorem endsNumeral_spelledItems (items : List Value) (rest : Bytes) :
    EndsNumeral (spelledItems false items ++ rest) := by
  cases items <;> exact ⟨by decide, by decide, by decide, by decide⟩

/-- Behind a member comes a comma or a closing brace. -/
theorem endsNumeral_spelledMembers (members : List (String × Value)) (rest : Bytes) :
    EndsNumeral (spelledMembers false members ++ rest) := by
  rcases members with _ | ⟨⟨key, value⟩, members⟩ <;>
    exact ⟨by decide, by decide, by decide, by decide⟩

/-- A closing bracket is no item. -/
theorem spelledItems_cons_ne (first : Bool) (item : Value) (items : List Value)
    (rest otherRest : Bytes) :
    spelledItems first (item :: items) ++ rest ≠ byte ']' :: otherRest := by
  intro same
  cases first with
  | true =>
    obtain ⟨head, tail, text, -, noBracket⟩ :=
      (startsValue_spelled item).append (spelledItems false items ++ rest)
    rw [spelledItems, separator, if_pos rfl, List.nil_append, List.append_assoc, text] at same
    exact noBracket (List.cons.inj same).1
  | false => exact absurd (List.cons.inj same).1 (by decide)

/-- Items are told by their text, with what stands behind it, if each of them is. -/
theorem spelledItems_inj {items others : List Value} (told : ∀ item ∈ items, item.Told)
    (first : Bool) {rest otherRest : Bytes}
    (same : spelledItems first items ++ rest = spelledItems first others ++ otherRest) :
    items = others ∧ rest = otherRest := by
  induction items generalizing others first with
  | nil =>
    cases others with
    | nil => exact ⟨rfl, (List.cons.inj same).2⟩
    | cons other others => exact absurd same.symm (spelledItems_cons_ne first other others _ _)
  | cons item items inductionHypothesis =>
    cases others with
    | nil => exact absurd same (spelledItems_cons_ne first item items _ _)
    | cons other others =>
      simp only [spelledItems, List.append_assoc, List.append_cancel_left_eq] at same
      obtain ⟨rfl, behind⟩ := told item List.mem_cons_self other _ _
        (endsNumeral_spelledItems items rest) (endsNumeral_spelledItems others otherRest) same
      obtain ⟨rfl, rests⟩ := inductionHypothesis
        (fun each later => told each (List.mem_cons_of_mem _ later)) false behind
      exact ⟨rfl, rests⟩

/-- A closing brace is no member. -/
theorem spelledMembers_cons_ne (first : Bool) (member : String × Value)
    (members : List (String × Value)) (rest otherRest : Bytes) :
    spelledMembers first (member :: members) ++ rest ≠ byte '\x7d' :: otherRest := by
  obtain ⟨key, value⟩ := member
  intro same
  cases first <;> exact absurd (List.cons.inj same).1 (by decide)

/-- Members are told by their text, with what stands behind it, if the value of each of them is. -/
theorem spelledMembers_inj {members others : List (String × Value)}
    (told : ∀ member ∈ members, member.2.Told) (first : Bool) {rest otherRest : Bytes}
    (same : spelledMembers first members ++ rest = spelledMembers first others ++ otherRest) :
    members = others ∧ rest = otherRest := by
  induction members generalizing others first with
  | nil =>
    cases others with
    | nil => exact ⟨rfl, (List.cons.inj same).2⟩
    | cons other others => exact absurd same.symm (spelledMembers_cons_ne first other others _ _)
  | cons member members inductionHypothesis =>
    cases others with
    | nil => exact absurd same (spelledMembers_cons_ne first member members _ _)
    | cons other others =>
      obtain ⟨key, value⟩ := member
      obtain ⟨otherKey, otherValue⟩ := other
      simp only [spelledMembers, List.append_assoc, List.append_cancel_left_eq] at same
      obtain ⟨rfl, colon⟩ := spelledString_inj same
      simp only [List.cons_append, List.cons.injEq, true_and] at colon
      obtain ⟨rfl, behind⟩ := told (key, value) List.mem_cons_self otherValue _ _
        (endsNumeral_spelledMembers members rest) (endsNumeral_spelledMembers others otherRest) colon
      obtain ⟨rfl, rests⟩ := inductionHypothesis
        (fun each later => told each (List.mem_cons_of_mem _ later)) false behind
      exact ⟨rfl, rests⟩

/-- To be told by its text a value only has to be told apart from others of its kind. -/
theorem Value.told_of_kind {value : Value} (told : ∀ other rest otherRest,
    value.kind = other.kind → EndsNumeral rest → EndsNumeral otherRest →
      value.spelled ++ rest = other.spelled ++ otherRest → value = other ∧ rest = otherRest) :
    value.Told :=
  fun other rest otherRest ends otherEnds same =>
    told other rest otherRest (kind_eq_of_spelled same) ends otherEnds same

/-- Every value is told by its text, with what stands behind it. -/
theorem Value.told (value : Value) : value.Told := by
  induction value using Value.induction with
  | null =>
    refine told_of_kind fun other rest otherRest kind ends otherEnds same => ?_
    cases other with
    | null => exact ⟨rfl, List.append_cancel_left same⟩
    | _ => cases kind
  | boolean value =>
    refine told_of_kind fun other rest otherRest kind ends otherEnds same => ?_
    cases other with
    | boolean otherValue =>
      cases value <;> cases otherValue
      case false.false => exact ⟨rfl, List.append_cancel_left same⟩
      case true.true => exact ⟨rfl, List.append_cancel_left same⟩
      all_goals exact absurd (List.cons.inj same).1 (by decide)
    | _ => cases kind
  | number value =>
    refine told_of_kind fun other rest otherRest kind ends otherEnds same => ?_
    cases other with
    | number otherValue =>
      obtain ⟨rfl, rests⟩ := number_inj ends otherEnds same
      exact ⟨rfl, rests⟩
    | _ => cases kind
  | string value =>
    refine told_of_kind fun other rest otherRest kind ends otherEnds same => ?_
    cases other with
    | string otherValue =>
      obtain ⟨rfl, rests⟩ := spelledString_inj same
      exact ⟨rfl, rests⟩
    | _ => cases kind
  | array items inductionHypothesis =>
    refine told_of_kind fun other rest otherRest kind ends otherEnds same => ?_
    cases other with
    | array others =>
      obtain ⟨rfl, rests⟩ := spelledItems_inj inductionHypothesis true (List.cons.inj same).2
      exact ⟨rfl, rests⟩
    | _ => cases kind
  | object members inductionHypothesis =>
    refine told_of_kind fun other rest otherRest kind ends otherEnds same => ?_
    cases other with
    | object others =>
      obtain ⟨rfl, rests⟩ := spelledMembers_inj inductionHypothesis true (List.cons.inj same).2
      exact ⟨rfl, rests⟩
    | _ => cases kind

/-- A value is told by its compact text. -/
theorem compact_injective {left right : Value} (same : left.compact = right.compact) :
    left = right := by
  rw [compact_eq, compact_eq] at same
  exact (left.told right [] [] trivial trivial (by rw [same])).1

end GatedResolver.Json
