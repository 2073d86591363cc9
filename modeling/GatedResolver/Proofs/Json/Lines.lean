import GatedResolver.Proofs.Json.Floats
import GatedResolver.Proofs.Json.Spelling

/-!
# Compact documents are lines

The compact writer puts no control character anywhere: those of strings are escaped, and there is no
white space between the parts. So a document and a line feed behind it are one line, whatever the
document says.
-/

namespace GatedResolver.Json

open Text (byte utf8)

/-- Bytes without a control character of ASCII. -/
def IsPlainLine (bytes : Bytes) : Prop :=
  ∀ octet ∈ bytes, 0x20 ≤ octet

instance (bytes : Bytes) : Decidable (IsPlainLine bytes) :=
  List.decidableBAll (fun octet => 0x20 ≤ octet) bytes

namespace IsPlainLine

variable {left right : Bytes}

/-- Lines stay lines in a row. -/
theorem append (first : IsPlainLine left) (second : IsPlainLine right) :
    IsPlainLine (left ++ right) := by
  intro octet belongs
  rcases List.mem_append.mp belongs with before | behind
  · exact first octet before
  · exact second octet behind

/-- A line stays a line behind another byte. -/
theorem cons {octet : UInt8} (shown : 0x20 ≤ octet) (rest : IsPlainLine right) :
    IsPlainLine (octet :: right) :=
  List.forall_mem_cons.mpr ⟨shown, rest⟩

/-- There is no line feed in a line. -/
theorem newline_notMem (line : IsPlainLine left) : 0x0A ∉ left :=
  fun belongs => absurd (line _ belongs) (by decide)

end IsPlainLine

/-- Digits are a line. -/
theorem AreDigits.isPlainLine {digits : Bytes} (areDigits : AreDigits digits) : IsPlainLine digits := by
  intro octet belongs
  have digit := areDigits.2 octet belongs
  simp only [isDigit, Bool.and_eq_true, decide_eq_true_eq] at digit
  exact UInt8.le_trans (by decide) digit.1

/-- A numeral is a line. -/
theorem Numeral.isPlainLine_spelled {numeral : Numeral} (wellFormed : numeral.WellFormed) :
    IsPlainLine numeral.spelled := by
  have sign : IsPlainLine (if numeral.negative then [0x2D] else []) := by
    cases numeral.negative <;> decide
  have fraction : IsPlainLine (spelledFraction numeral.fraction) := by
    cases found : numeral.fraction with
    | none => decide
    | some digits => exact .cons (by decide) (wellFormed.fraction digits found).isPlainLine
  have exponent : IsPlainLine (spelledExponent numeral.exponent) := by
    cases found : numeral.exponent with
    | none => decide
    | some part =>
      have digits := (wellFormed.exponent part found).isPlainLine
      exact .cons (by decide) (.cons (by split <;> decide) digits)
  exact ((sign.append wellFormed.whole.isPlainLine).append fraction).append exponent

/-- A byte of a string is written without a control character, be it one or not. -/
theorem isPlainLine_escapeByte (octet : UInt8) : IsPlainLine (escapeByte octet) :=
  Text.forall_octet (by decide +kernel) octet

/-- A string between its quotes is a line, whatever the text is. -/
theorem isPlainLine_spelledString (text : String) : IsPlainLine (spelledString text) := by
  refine .cons (by decide) (.append ?_ (by decide))
  intro octet belongs
  obtain ⟨written, -, inside⟩ := List.mem_flatMap.mp belongs
  exact isPlainLine_escapeByte written octet inside

/-- What stands before an item or a member is a line. -/
theorem isPlainLine_separator (first : Bool) : IsPlainLine (separator first) := by
  cases first <;> decide

/-- Items are a line if each of them is. -/
theorem isPlainLine_spelledItems {items : List Value}
    (lines : ∀ item ∈ items, IsPlainLine item.spelled) (first : Bool) :
    IsPlainLine (spelledItems first items) := by
  induction items generalizing first with
  | nil => exact .cons (by decide) (by decide)
  | cons item rest inductionHypothesis =>
    obtain ⟨line, others⟩ := List.forall_mem_cons.mp lines
    rw [spelledItems]
    exact ((isPlainLine_separator first).append line).append (inductionHypothesis others false)

/-- Members are a line if the value of each of them is. -/
theorem isPlainLine_spelledMembers {members : List (String × Value)}
    (lines : ∀ member ∈ members, IsPlainLine member.2.spelled) (first : Bool) :
    IsPlainLine (spelledMembers first members) := by
  induction members generalizing first with
  | nil => exact .cons (by decide) (by decide)
  | cons member rest inductionHypothesis =>
    obtain ⟨key, value⟩ := member
    obtain ⟨line, others⟩ := List.forall_mem_cons.mp lines
    have begun := (isPlainLine_separator first).append (isPlainLine_spelledString key)
    have whole := line.append (inductionHypothesis others false)
    rw [spelledMembers, List.append_assoc, List.cons_append]
    exact begun.append (.cons (by decide) whole)

/-- A value is spelled in a line. -/
theorem Value.isPlainLine_spelled (value : Value) : IsPlainLine value.spelled := by
  induction value using Value.induction with
  | null => decide +kernel
  | boolean value => cases value <;> decide +kernel
  | number value =>
    rw [Value.spelled, Number.utf8_text]
    exact Numeral.isPlainLine_spelled value.wellFormed_numeral
  | string text => exact isPlainLine_spelledString text
  | array items inductionHypothesis =>
    exact .cons (by decide) (isPlainLine_spelledItems inductionHypothesis true)
  | object members inductionHypothesis =>
    exact .cons (by decide) (isPlainLine_spelledMembers inductionHypothesis true)

/-- There is no line feed in a compact document. -/
theorem newline_notMem_compact (value : Value) : 0x0A ∉ value.compact := by
  rw [compact_eq]
  exact value.isPlainLine_spelled.newline_notMem

end GatedResolver.Json
