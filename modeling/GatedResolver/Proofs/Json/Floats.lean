import GatedResolver.Proofs.Binary64.Shortest
import GatedResolver.Proofs.Json.Numerals

/-!
# Numbers told apart by their texts

The text of a floating point number is the text of a numeral that follows the grammar and always
has a point or an exponent. Its digits and its exponent are those of the shortest decimal of the
number, which reads back as that number only. The text of an integer has neither. So different
numbers have different texts (`Number.numeral_injective`).
-/

namespace GatedResolver.Json

open Binary64 (Decimal decimalShift)
open Text (byte)

section Digits

/-- The number that two rows of digits spell, one behind the other. -/
theorem digitsValue_append (front back : Bytes) :
    digitsValue (front ++ back) = digitsValue front * 10 ^ back.length + digitsValue back := by
  have onto : ∀ start : Nat,
      back.foldl (fun value digit => 10 * value + digitValue digit) start =
        start * 10 ^ back.length + digitsValue back := by
    simp only [digitsValue]
    induction back with
    | nil => simp
    | cons digit rest inductionHypothesis =>
      intro start
      rw [List.foldl_cons, inductionHypothesis, List.foldl_cons,
        inductionHypothesis (10 * 0 + digitValue digit), List.length_cons, Nat.pow_succ]
      ring
  rw [digitsValue, List.foldl_append, onto]
  rfl

/-- Zeros spell zero. -/
theorem digitsValue_zeros (count : Nat) : digitsValue (List.replicate count 0x30) = 0 := by
  induction count with
  | zero => rfl
  | succ count inductionHypothesis =>
    rw [List.replicate_succ', digitsValue_append, inductionHypothesis]
    rfl

/-- Zeros are digits. -/
theorem isDigit_of_mem_zeros {count : Nat} {octet : UInt8}
    (member : octet ∈ List.replicate count (0x30 : UInt8)) : isDigit octet = true := by
  rw [(List.mem_replicate.mp member).2]
  rfl

/-- The first digit of a positive number is not zero. -/
theorem head?_decimalDigits {value : Nat} (positive : value ≠ 0) :
    (decimalDigits value).head? ≠ some 0x30 := by
  obtain ⟨head, tail, digits, -, zero⟩ := decimalDigits_cons value
  rw [digits]
  exact fun same => positive (zero (Option.some.inj same)).1

/-- A number has a digit at least. -/
theorem length_decimalDigits_pos (value : Nat) : 0 < (decimalDigits value).length :=
  List.length_pos_iff.mpr (areDigits_decimalDigits value).1

end Digits

namespace Numeral

/-- The digits on both sides of the point. -/
def allDigits (numeral : Numeral) : Bytes :=
  numeral.whole ++ numeral.fraction.getD []

/-- The exponent with its sign, zero where none is written. -/
def power (numeral : Numeral) : Int :=
  match numeral.exponent with
  | none => 0
  | some (negative, digits) => if negative then -(digitsValue digits : Int) else digitsValue digits

/-- The decimal that a numeral spells, apart from its sign. -/
def decimal (numeral : Numeral) : Decimal :=
  ⟨digitsValue numeral.allDigits, numeral.power - (numeral.fraction.getD []).length⟩

/-- Whether a numeral has a point or an exponent. -/
def isFloat (numeral : Numeral) : Bool :=
  numeral.fraction.isSome || numeral.exponent.isSome

end Numeral

section Layouts

variable (negative : Bool) (decimal : Decimal)

/-- The numeral of a decimal without an exponent. -/
def positionalNumeral : Numeral :=
  let digits := decimalDigits decimal.digits
  let places := decimal.exponent.natAbs
  if 0 ≤ decimal.exponent then
    ⟨negative, digits ++ List.replicate decimal.exponent.toNat 0x30, some [0x30], none⟩
  else if places < digits.length then
    ⟨negative, digits.take (digits.length - places), some (digits.drop (digits.length - places)),
      none⟩
  else
    ⟨negative, [0x30], some (List.replicate (places - digits.length) 0x30 ++ digits), none⟩

/-- The numeral of a decimal with an exponent. -/
def exponentNumeral (leading : Int) : Numeral :=
  let digits := decimalDigits decimal.digits
  let fraction := digits.drop 1
  ⟨negative, digits.take 1, if fraction.isEmpty then none else some fraction,
    some (decide (leading < 0), decimalDigits leading.natAbs)⟩

/-- The place of the leading digit of a decimal, counted from the point. -/
def leadingExponent : Int :=
  decimal.exponent + (decimalDigits decimal.digits).length - 1

/-- The numeral of a decimal in documents. -/
def decimalNumeral : Numeral :=
  if numberLayout.positional (leadingExponent decimal) then positionalNumeral negative decimal
  else exponentNumeral negative decimal (leadingExponent decimal)

/-- A character of digits is a digit in bytes. -/
theorem map_byte_digitList (value : Nat) :
    (Binary64.digitList value).map byte = decimalDigits value :=
  rfl

/-- The sign of a numeral as characters. -/
theorem map_byte_sign :
    (if negative then ['-'] else []).map byte = if negative then [0x2D] else [] := by
  cases negative <;> rfl

/-- The digits without an exponent are those of the numeral. -/
theorem spelled_positionalNumeral :
    (positionalNumeral negative decimal).spelled = (if negative then [0x2D] else []) ++
      (Binary64.positionalDigits decimal).map byte := by
  have zero : byte '0' = 0x30 := rfl
  have point : byte '.' = 0x2E := rfl
  have count : (Binary64.digitList decimal.digits).length =
      (decimalDigits decimal.digits).length := by rw [← map_byte_digitList, List.length_map]
  simp only [positionalNumeral, Binary64.positionalDigits, count]
  split
  · simp [Numeral.spelled, Numeral.spelledFraction, Numeral.spelledExponent, map_byte_digitList,
      zero, point]
  · split <;>
      simp [Numeral.spelled, Numeral.spelledFraction, Numeral.spelledExponent, map_byte_digitList,
        List.map_take, List.map_drop, zero, point]

/-- The digits with an exponent are those of the numeral. -/
theorem spelled_exponentNumeral (leading : Int) :
    (exponentNumeral negative decimal leading).spelled = (if negative then [0x2D] else []) ++
      (Binary64.exponentDigits decimal leading).map byte := by
  have fraction : ((Binary64.digitList decimal.digits).drop 1).isEmpty =
      ((decimalDigits decimal.digits).drop 1).isEmpty := by
    rw [← map_byte_digitList, ← List.map_drop, List.isEmpty_map]
  have minus : byte '-' = 0x2D := rfl
  have plus : byte '+' = 0x2B := rfl
  have mark : byte 'e' = 0x65 := rfl
  have point : byte '.' = 0x2E := rfl
  simp only [exponentNumeral, Binary64.exponentDigits, fraction]
  by_cases less : leading < 0
  all_goals
    split <;>
      simp [Numeral.spelled, Numeral.spelledFraction, Numeral.spelledExponent, map_byte_digitList,
        less, minus, plus, mark, point]

/-- The digits of a decimal in documents are those of its numeral. -/
theorem spelled_decimalNumeral :
    (decimalNumeral negative decimal).spelled = (if negative then [0x2D] else []) ++
      (numberLayout.digits decimal).map byte := by
  have leading : decimal.exponent + (Binary64.digitList decimal.digits).length - 1 =
      leadingExponent decimal := by
    rw [leadingExponent, ← map_byte_digitList, List.length_map]
  simp only [decimalNumeral, Binary64.DecimalLayout.digits, leading]
  split
  · exact spelled_positionalNumeral negative decimal
  · exact spelled_exponentNumeral negative decimal _

variable {decimal}

/-- Without an exponent there is a point. -/
theorem isFloat_decimalNumeral : (decimalNumeral negative decimal).isFloat = true := by
  simp only [decimalNumeral, positionalNumeral, exponentNumeral]
  repeat' split
  all_goals rfl

/-- The sign of the numeral of a decimal. -/
theorem negative_decimalNumeral : (decimalNumeral negative decimal).negative = negative := by
  simp only [decimalNumeral, positionalNumeral, exponentNumeral]
  repeat' split
  all_goals rfl

/-- A part of a row of digits that is not empty. -/
theorem AreDigits.part {digits part : Bytes} (are : AreDigits digits) (sub : part.Sublist digits)
    (some : part ≠ []) : AreDigits part :=
  ⟨some, fun octet member => are.2 octet (sub.subset member)⟩

/-- The numeral without an exponent follows the grammar. -/
theorem wellFormed_positionalNumeral (positive : decimal.digits ≠ 0) :
    (positionalNumeral negative decimal).WellFormed := by
  have digits := areDigits_decimalDigits decimal.digits
  have leading := head?_decimalDigits positive
  have count := length_decimalDigits_pos decimal.digits
  unfold positionalNumeral
  generalize decimalDigits decimal.digits = row at digits leading count
  have zeros : ∀ count, ∀ octet ∈ List.replicate count (0x30 : UInt8), isDigit octet = true :=
    fun _ _ => isDigit_of_mem_zeros
  by_cases large : 0 ≤ decimal.exponent
  · rw [if_pos large]
    refine ⟨⟨by simp [digits.1], ?_⟩, ?_, ?_, by simp⟩
    · exact List.forall_mem_append.mpr ⟨digits.2, zeros _⟩
    · intro zero
      rw [List.head?_append, Option.or_of_isSome (by simpa [Option.isSome_iff_ne_none] using digits.1)] at zero
      exact absurd zero leading
    · rintro _ ⟨⟩
      exact ⟨by simp, List.forall_mem_singleton.mpr rfl⟩
  · rw [if_neg large]
    by_cases inside : decimal.exponent.natAbs < row.length
    · rw [if_pos inside]
      refine ⟨digits.part (List.take_sublist _ _) ?_, ?_, ?_, by simp⟩
      · rw [ne_eq, List.take_eq_nil_iff]
        rintro (none | empty)
        · omega
        · exact digits.1 empty
      · rw [List.head?_take, if_neg (by omega)]
        exact fun zero => absurd zero leading
      · rintro _ ⟨⟩
        refine digits.part (List.drop_sublist _ _) ?_
        rw [ne_eq, List.drop_eq_nil_iff]
        omega
    · rw [if_neg inside]
      refine ⟨⟨by simp, by simp [isDigit]⟩, fun _ => rfl, ?_, by simp⟩
      rintro _ ⟨⟩
      exact ⟨by simp [digits.1], List.forall_mem_append.mpr ⟨zeros _, digits.2⟩⟩

/-- The numeral with an exponent follows the grammar. -/
theorem wellFormed_exponentNumeral (leading : Int) :
    (exponentNumeral negative decimal leading).WellFormed := by
  obtain ⟨head, tail, row, digit, -⟩ := decimalDigits_cons decimal.digits
  have digits := areDigits_decimalDigits decimal.digits
  simp only [exponentNumeral, row, List.take_succ_cons, List.take_zero, List.drop_succ_cons,
    List.drop_zero]
  refine ⟨⟨by simp, by simp [digit]⟩, ?_, ?_, ?_⟩
  · exact fun same => congrArg (fun octet => [octet]) (Option.some.inj same)
  · intro fraction some
    split at some
    · cases some
    · next present =>
      cases some
      rw [row] at digits
      exact digits.part (List.sublist_cons_self _ _) (by simpa using present)
  · rintro _ ⟨⟩
    exact areDigits_decimalDigits leading.natAbs

/-- The numeral of a decimal follows the grammar. -/
theorem wellFormed_decimalNumeral (positive : decimal.digits ≠ 0) :
    (decimalNumeral negative decimal).WellFormed := by
  unfold decimalNumeral
  split
  · exact wellFormed_positionalNumeral negative positive
  · exact wellFormed_exponentNumeral negative _

/-- A decimal that is moved by some places is the same integer after a shift. -/
theorem shifted_eq {left right : Decimal} (places : Nat)
    (digits : left.digits = right.digits * 10 ^ places)
    (exponent : left.exponent + places = right.exponent)
    (least : -(decimalShift : Int) ≤ left.exponent) : left.shifted = right.shifted := by
  have all : (right.exponent + decimalShift).toNat =
      (left.exponent + decimalShift).toNat + places := by omega
  rw [Decimal.shifted, Decimal.shifted, digits, all, Nat.pow_add]
  ring

/-- The numeral without an exponent spells the decimal. -/
theorem shifted_positionalNumeral (least : -(decimalShift : Int) ≤ decimal.exponent) :
    (positionalNumeral negative decimal).decimal.shifted = decimal.shifted := by
  have value := digitsValue_decimalDigits decimal.digits
  have shift : (1 : Int) ≤ decimalShift := by decide
  have one : digitsValue [0x30] = 0 := rfl
  unfold positionalNumeral
  generalize decimalDigits decimal.digits = row at value
  by_cases large : 0 ≤ decimal.exponent
  · rw [if_pos large]
    apply shifted_eq (decimal.exponent.toNat + 1)
    · simp only [Numeral.decimal, Numeral.allDigits, Option.getD_some, digitsValue_append, value,
        digitsValue_zeros, one, List.length_replicate, List.length_singleton]
      ring
    · simp only [Numeral.decimal, Numeral.power, Option.getD_some, List.length_singleton]
      omega
    · simp only [Numeral.decimal, Numeral.power, Option.getD_some, List.length_singleton]
      omega
  · rw [if_neg large]
    by_cases inside : decimal.exponent.natAbs < row.length
    · rw [if_pos inside]
      apply shifted_eq 0
      · simp [Numeral.decimal, Numeral.allDigits, value]
      · simp only [Numeral.decimal, Numeral.power, Option.getD_some, List.length_drop]
        omega
      · simp only [Numeral.decimal, Numeral.power, Option.getD_some, List.length_drop]
        omega
    · rw [if_neg inside]
      apply shifted_eq 0
      · simp only [Numeral.decimal, Numeral.allDigits, Option.getD_some, digitsValue_append,
          digitsValue_zeros, one, value]
        ring
      · simp only [Numeral.decimal, Numeral.power, Option.getD_some, List.length_append,
          List.length_replicate]
        omega
      · simp only [Numeral.decimal, Numeral.power, Option.getD_some, List.length_append,
          List.length_replicate]
        omega

/-- The numeral with an exponent spells the decimal. -/
theorem shifted_exponentNumeral :
    (exponentNumeral negative decimal (leadingExponent decimal)).decimal.shifted =
      decimal.shifted := by
  have value := digitsValue_decimalDigits decimal.digits
  have signed : (exponentNumeral negative decimal (leadingExponent decimal)).power =
      leadingExponent decimal := by
    simp only [exponentNumeral, Numeral.power, digitsValue_decimalDigits, decide_eq_true_eq]
    split <;> omega
  have fraction : (exponentNumeral negative decimal (leadingExponent decimal)).fraction.getD [] =
      (decimalDigits decimal.digits).drop 1 := by
    simp only [exponentNumeral]
    split
    · next empty => exact (List.isEmpty_iff.mp empty).symm
    · rfl
  have digits : (exponentNumeral negative decimal (leadingExponent decimal)).allDigits =
      decimalDigits decimal.digits := by
    rw [Numeral.allDigits, fraction]
    exact List.take_append_drop 1 _
  have count := length_decimalDigits_pos decimal.digits
  have exponent : leadingExponent decimal - ((decimalDigits decimal.digits).drop 1).length =
      decimal.exponent := by
    rw [List.length_drop, leadingExponent]
    omega
  rw [Numeral.decimal, signed, fraction, digits, value, exponent]

/-- The numeral of a decimal spells it. -/
theorem shifted_decimalNumeral (least : -(decimalShift : Int) ≤ decimal.exponent) :
    (decimalNumeral negative decimal).decimal.shifted = decimal.shifted := by
  unfold decimalNumeral
  split
  · exact shifted_positionalNumeral negative least
  · exact shifted_exponentNumeral negative

end Layouts

section Numbers

/-- The numeral of a finite floating point number. -/
def floatNumeral (number : Binary64) : Numeral :=
  if number.isZero then ⟨number.isNegative, [0x30], some [0x30], none⟩
  else decimalNumeral number.isNegative (Binary64.shortest .toEven number)

variable {number : Binary64}

/-- Zero reads back as zero. -/
theorem readsBack_zero (zero : number.isZero = true) : number.readsBack 0 0 = true := by
  have bits : number.magnitudeBits = 0 := by simpa [Binary64.isZero] using zero
  simp [Binary64.readsBack_iff, bits, Binary64.lowerEnd]

/-- A decimal that reads back as a number other than zero is not zero. -/
theorem digits_shortest (positive : number.isZero = false) :
    (Binary64.shortest .toEven number).digits ≠ 0 := by
  intro none
  have reads := (Binary64.readsBack_shortest .toEven positive).1
  rw [Decimal.shifted, none, Nat.zero_mul] at reads
  have zero : (Binary64.zero false).isZero = true := by decide
  have bits := Binary64.magnitudeBits_eq_of_readsBack (Eq.refl (0 * 10 ^ 0)) reads
    (readsBack_zero zero)
  have other : (Binary64.zero false).isZero = false := by rwa [Binary64.isZero, ← bits]
  rw [zero] at other
  cases other

/-- The numeral of a floating point number follows the grammar. -/
theorem wellFormed_floatNumeral : (floatNumeral number).WellFormed := by
  unfold floatNumeral
  split
  · refine ⟨⟨by simp, by simp [isDigit]⟩, fun _ => rfl, ?_, by simp⟩
    rintro _ ⟨⟩
    exact ⟨by simp, by simp [isDigit]⟩
  · next positive =>
    exact wellFormed_decimalNumeral _ (digits_shortest (Bool.eq_false_of_not_eq_true positive))

/-- The numeral of a floating point number has a point or an exponent. -/
theorem isFloat_floatNumeral : (floatNumeral number).isFloat = true := by
  unfold floatNumeral
  split
  · rfl
  · exact isFloat_decimalNumeral _

/-- The numeral of a floating point number has its sign. -/
theorem negative_floatNumeral : (floatNumeral number).negative = number.isNegative := by
  unfold floatNumeral
  split
  · rfl
  · exact negative_decimalNumeral _

/-- The numeral of a floating point number reads back as that number. -/
theorem readsBack_floatNumeral :
    number.readsBack (floatNumeral number).decimal.shifted 0 = true := by
  unfold floatNumeral
  split
  · next zero =>
    have digits : digitsValue [0x30, 0x30] = 0 := rfl
    simp only [Decimal.shifted, Numeral.decimal, Numeral.allDigits, Option.getD_some,
      List.singleton_append, digits, Nat.zero_mul]
    exact readsBack_zero zero
  · next positive =>
    obtain ⟨reads, least⟩ :=
      Binary64.readsBack_shortest .toEven (Bool.eq_false_of_not_eq_true positive)
    rw [shifted_decimalNumeral _ least]
    exact reads

/-- A number is its sign and its magnitude. -/
theorem eq_of_magnitudeBits {left right : Binary64} (signs : left.isNegative = right.isNegative)
    (magnitudes : left.magnitudeBits = right.magnitudeBits) : left = right := by
  obtain ⟨left⟩ := left
  obtain ⟨right⟩ := right
  have leftBound := left.toNat_lt
  have rightBound := right.toNat_lt
  have sign : Binary64.signWeight ≤ left.toNat ↔ Binary64.signWeight ≤ right.toNat :=
    decide_eq_decide.mp signs
  simp only [Binary64.magnitudeBits, Binary64.signWeight] at sign magnitudes
  rw [Binary64.mk.injEq, ← UInt64.toNat_inj]
  omega

/-- A floating point number is told by its numeral. -/
theorem floatNumeral_injective {left right : Binary64}
    (same : floatNumeral left = floatNumeral right) : left = right := by
  have leftReads := @readsBack_floatNumeral left
  rw [same] at leftReads
  refine eq_of_magnitudeBits ?_
    (Binary64.magnitudeBits_eq_of_readsBack rfl leftReads readsBack_floatNumeral)
  rw [← negative_floatNumeral, same, negative_floatNumeral]

/-- Every character of a text is ASCII. -/
def AllAscii (characters : List Char) : Prop :=
  ∀ character ∈ characters, character.toNat < 0x80

instance (characters : List Char) : Decidable (AllAscii characters) :=
  List.decidableBAll (fun character : Char => character.toNat < 0x80) characters

/-- Two rows of ASCII characters make one. -/
theorem AllAscii.append {front back : List Char} (frontAscii : AllAscii front)
    (backAscii : AllAscii back) : AllAscii (front ++ back) :=
  List.forall_mem_append.mpr ⟨frontAscii, backAscii⟩

/-- A part of a row of ASCII characters is one. -/
theorem AllAscii.part {characters part : List Char} (ascii : AllAscii characters)
    (sub : part.Sublist characters) : AllAscii part :=
  fun character member => ascii character (sub.subset member)

/-- The digits of a number are ASCII. -/
theorem allAscii_digitList (value : Nat) : AllAscii (Binary64.digitList value) :=
  fun _ => ascii_of_mem_toDigits

/-- Zeros are ASCII. -/
theorem allAscii_zeros (count : Nat) : AllAscii (List.replicate count '0') := by
  intro digit member
  rw [(List.mem_replicate.mp member).2]
  decide

/-- The digits of a decimal in documents are ASCII, with their point, mark and sign. -/
theorem allAscii_digits (decimal : Decimal) : AllAscii (numberLayout.digits decimal) := by
  have digits := allAscii_digitList decimal.digits
  have point : AllAscii ['.'] := by decide
  simp only [Binary64.DecimalLayout.digits]
  split
  · simp only [Binary64.positionalDigits]
    by_cases large : 0 ≤ decimal.exponent
    · rw [if_pos large]
      exact (digits.append (allAscii_zeros _)).append (by decide)
    · rw [if_neg large]
      split
      · exact (digits.part (List.take_sublist _ _)).append
          (point.append (digits.part (List.drop_sublist _ _)))
      · exact AllAscii.append (by decide : AllAscii ['0', '.']) ((allAscii_zeros _).append digits)
  · refine AllAscii.append (.append (.append (digits.part (List.take_sublist _ _)) ?_) ?_)
      (allAscii_digitList _)
    · split
      · decide
      · exact point.append (digits.part (List.drop_sublist _ _))
    · split <;> decide

/-- The text of a finite floating point number is that of its numeral. -/
theorem utf8_floatText (finite : number.isFinite = true) :
    Text.utf8 (floatText number) = (floatNumeral number).spelled := by
  have number? : number.isNaN = false := by
    simp only [Binary64.isFinite, Binary64.isNaN, decide_eq_true_eq, decide_eq_false_iff_not]
      at finite ⊢
    omega
  have sign : AllAscii (if number.isNegative then ['-'] else []) := by
    cases number.isNegative <;> decide
  unfold floatText Binary64.textIn floatNumeral
  simp only [number?, finite, Bool.false_eq_true, if_false, Bool.not_true]
  split
  · rw [Text.utf8_ofList_ascii, List.map_append, map_byte_sign]
    · simp only [Numeral.spelled, Numeral.spelledFraction, Numeral.spelledExponent,
        List.append_assoc]
      rfl
    · exact sign.append (by decide)
  · rw [Text.utf8_ofList_ascii, List.map_append, map_byte_sign]
    · exact (spelled_decimalNumeral _ _).symm
    · exact sign.append (allAscii_digits _)

/-- The numeral of a number. -/
def Number.numeral : Number → Numeral
  | .integer value _ => integerNumeral value
  | .float value _ => floatNumeral value

/-- The text of a number is that of its numeral. -/
theorem Number.utf8_text (number : Number) : Text.utf8 number.text = number.numeral.spelled := by
  cases number with
  | integer value within => exact utf8_decimalInt_eq_spelled value
  | float value finite => exact utf8_floatText finite

/-- The numeral of a number follows the grammar. -/
theorem Number.wellFormed_numeral (number : Number) : number.numeral.WellFormed := by
  cases number with
  | integer value within => exact wellFormed_integerNumeral value
  | float value finite => exact wellFormed_floatNumeral

/-- An integer is told by its numeral. -/
theorem integerNumeral_injective {left right : Int}
    (same : integerNumeral left = integerNumeral right) : left = right := by
  simp only [integerNumeral, Numeral.mk.injEq, decide_eq_decide, and_true] at same
  have magnitude := congrArg digitsValue same.2
  rw [digitsValue_decimalDigits, digitsValue_decimalDigits] at magnitude
  omega

/-- A number is told by its numeral, and its kind by whether that has a point or an exponent. -/
theorem Number.numeral_injective {left right : Number} (same : left.numeral = right.numeral) :
    left = right := by
  have apart : ∀ value number, integerNumeral value ≠ floatNumeral number := by
    intro value number same
    have float := @isFloat_floatNumeral number
    rw [← same] at float
    cases float
  cases left with
  | integer left leftWithin =>
    cases right with
    | integer right rightWithin =>
      cases integerNumeral_injective same
      rfl
    | float right rightFinite => exact absurd same (apart left right)
  | float left leftFinite =>
    cases right with
    | integer right rightWithin => exact absurd same.symm (apart right left)
    | float right rightFinite =>
      cases floatNumeral_injective same
      rfl

end Numbers

end GatedResolver.Json
