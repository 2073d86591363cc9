import GatedResolver.Json.Printer
import GatedResolver.Json.Reader
import GatedResolver.Proofs.Text.Utf8
import Mathlib.Data.List.TakeWhile

/-!
# Numerals read back

A numeral that follows the grammar is cut out of a text as it is spelled (`scanNumeral_spelled`),
as long as nothing follows that would belong to it. The digits of an integer are those of such a
numeral, which has that integer as its value if it fits into 64 bits.
-/

namespace GatedResolver.Json

open Text (byte)

/-- The digits of a number, as bytes. -/
def decimalDigits (value : Nat) : Bytes :=
  (Nat.toDigits 10 value).map byte

/-- The digits of a number are ASCII. -/
theorem ascii_of_mem_toDigits {value : Nat} {digit : Char} (member : digit ∈ Nat.toDigits 10 value) :
    digit.toNat < 0x80 := by
  have isDigit := Nat.isDigit_of_mem_toDigits (by decide) (by decide) member
  simp only [Char.isDigit, Bool.and_eq_true, decide_eq_true_eq, UInt32.le_iff_toNat_le] at isDigit
  change digit.val.toNat < 128
  have most : digit.val.toNat ≤ 57 := isDigit.2
  omega

/-- The bytes of a number in decimal are its digits. -/
theorem utf8_decimal (value : Nat) : Text.utf8 (Text.decimal value) = decimalDigits value :=
  Text.utf8_ofList_ascii fun _ => ascii_of_mem_toDigits

/-- The digit of a number below ten is that number. -/
theorem digitValue_digitChar {value : Nat} (small : value < 10) :
    isDigit (byte value.digitChar) = true ∧ digitValue (byte value.digitChar) = value ∧
      (byte value.digitChar = 0x30 → value = 0) := by
  have all : ∀ digit : Fin 10, isDigit (byte digit.val.digitChar) = true ∧
      digitValue (byte digit.val.digitChar) = digit ∧
        (byte digit.val.digitChar = 0x30 → digit.val = 0) := by decide
  exact all ⟨value, small⟩

/-- The digits of a number below ten, and of a greater one. -/
theorem decimalDigits_eq (value : Nat) :
    decimalDigits value =
      if value < 10 then [byte value.digitChar]
      else decimalDigits (value / 10) ++ [byte (value % 10).digitChar] := by
  rw [decimalDigits, Nat.toDigits_eq_if (by decide)]
  split
  · rfl
  · rw [List.map_append]
    rfl

/-- All bytes of a number in decimal are digits. -/
theorem isDigit_of_mem_decimalDigits {value : Nat} {octet : UInt8}
    (member : octet ∈ decimalDigits value) : isDigit octet = true := by
  induction value using Nat.strongRecOn with
  | ind value inductionHypothesis =>
    rw [decimalDigits_eq] at member
    split at member
    · next small =>
      rw [List.mem_singleton.mp member]
      exact (digitValue_digitChar small).1
    · next large =>
      rcases List.mem_append.mp member with front | last
      · exact inductionHypothesis (value / 10) (by omega) front
      · rw [List.mem_singleton.mp last]
        exact (digitValue_digitChar (by omega)).1

/-- A number in decimal starts with a zero only if it is zero. -/
theorem decimalDigits_cons (value : Nat) :
    ∃ head tail, decimalDigits value = head :: tail ∧ isDigit head = true ∧
      (head = 0x30 → value = 0 ∧ tail = []) := by
  induction value using Nat.strongRecOn with
  | ind value inductionHypothesis =>
    rw [decimalDigits_eq]
    split
    · next small =>
      obtain ⟨digit, -, zero⟩ := digitValue_digitChar small
      exact ⟨_, _, rfl, digit, fun same => ⟨zero same, rfl⟩⟩
    · next large =>
      obtain ⟨head, tail, digits, digit, zero⟩ := inductionHypothesis (value / 10) (by omega)
      refine ⟨head, _, by rw [digits]; rfl, digit, fun same => ?_⟩
      have none := (zero same).1
      omega

/-- Digits are appended one after the other, while they fit. -/
theorem appendDigits_append (value : Nat) {front : Bytes} {read : Nat}
    (fits : appendDigits value front = (read, [])) (digits : Bytes) :
    appendDigits value (front ++ digits) = appendDigits read digits := by
  induction front generalizing value with
  | nil =>
    cases fits
    rfl
  | cons digit rest inductionHypothesis =>
    simp only [appendDigits, List.cons_append] at fits ⊢
    split at fits
    · next small =>
      rw [if_pos small]
      exact inductionHypothesis _ fits
    · cases fits

/-- The digits of a number that fits into an unsigned word of 64 bits make that number. -/
theorem appendDigits_decimalDigits {value : Nat} (fits : value < 18446744073709551616) :
    appendDigits 0 (decimalDigits value) = (value, []) := by
  induction value using Nat.strongRecOn with
  | ind value inductionHypothesis =>
    rw [decimalDigits_eq]
    split
    · next small =>
      simp only [appendDigits, (digitValue_digitChar small).2.1, Nat.mul_zero, Nat.zero_add,
        if_pos fits]
    · next large =>
      rw [appendDigits_append 0 (inductionHypothesis (value / 10) (by omega) (by omega))]
      have last := (digitValue_digitChar (by omega : value % 10 < 10)).2.1
      have whole : 10 * (value / 10) + value % 10 = value := Nat.div_add_mod value 10
      simp only [appendDigits, last, whole, if_pos fits]

/-- The digits of a number spell that number. -/
theorem digitsValue_decimalDigits (value : Nat) : digitsValue (decimalDigits value) = value := by
  induction value using Nat.strongRecOn with
  | ind value inductionHypothesis =>
    rw [decimalDigits_eq]
    split
    · next small =>
      simp [digitsValue, (digitValue_digitChar small).2.1]
    · next large =>
      have front := inductionHypothesis (value / 10) (by omega)
      have last := (digitValue_digitChar (by omega : value % 10 < 10)).2.1
      simp only [digitsValue] at front
      simp only [digitsValue, List.foldl_append, front, List.foldl_cons, List.foldl_nil, last]
      omega

/-- A text that goes on in a way that no numeral does, or ends. -/
def EndsNumeral : Bytes → Prop
  | [] => True
  | octet :: _ =>
    isDigit octet = false ∧ octet ≠ byte '.' ∧ octet ≠ byte 'e' ∧ octet ≠ byte 'E'

/-- One digit at least, and nothing else. -/
def AreDigits (digits : Bytes) : Prop :=
  digits ≠ [] ∧ ∀ octet ∈ digits, isDigit octet = true

/-- The digits of a number are digits. -/
theorem areDigits_decimalDigits (value : Nat) : AreDigits (decimalDigits value) := by
  obtain ⟨head, tail, digits, -⟩ := decimalDigits_cons value
  exact ⟨by simp [digits], fun _ member => isDigit_of_mem_decimalDigits member⟩

/-- A text that does not go on with a digit. -/
def EndsDigits (text : Bytes) : Prop :=
  ∀ octet ∈ text.head?, isDigit octet = false

/-- Where a numeral ends its digits do. -/
theorem EndsNumeral.endsDigits {text : Bytes} (ends : EndsNumeral text) : EndsDigits text := by
  cases text with
  | nil => simp [EndsDigits]
  | cons octet behind => simpa [EndsDigits] using ends.1

/-- Digits are cut off where they end. -/
theorem AreDigits.takeWhile {digits : Bytes} (are : AreDigits digits) {rest : Bytes}
    (ends : EndsDigits rest) :
    (digits ++ rest).takeWhile isDigit = digits ∧ (digits ++ rest).dropWhile isDigit = rest := by
  rw [List.takeWhile_append_of_pos are.2, List.dropWhile_append_of_pos are.2]
  cases rest with
  | nil => simp
  | cons octet behind =>
    have other : isDigit octet = false := ends octet rfl
    simp [other]

namespace Numeral

/-- The digits behind the point, with the point. -/
def spelledFraction : Option Bytes → Bytes
  | none => []
  | some digits => 0x2E :: digits

/-- The digits of an exponent, with its mark and its sign. -/
def spelledExponent : Option (Bool × Bytes) → Bytes
  | none => []
  | some (negative, digits) => 0x65 :: (if negative then 0x2D else 0x2B) :: digits

/-- The text of a numeral. -/
def spelled (numeral : Numeral) : Bytes :=
  (if numeral.negative then [0x2D] else []) ++ numeral.whole ++
    spelledFraction numeral.fraction ++ spelledExponent numeral.exponent

/-- The texts of an exponent: its mark is of either case, and a positive sign may be left out. -/
inductive SpellsExponent : Option (Bool × Bytes) → Bytes → Prop
  | absent : SpellsExponent none []
  | negative {mark : UInt8} (marks : mark = 0x65 ∨ mark = 0x45) (digits : Bytes) :
      SpellsExponent (some (true, digits)) (mark :: 0x2D :: digits)
  | positive {mark : UInt8} (marks : mark = 0x65 ∨ mark = 0x45) (digits : Bytes) :
      SpellsExponent (some (false, digits)) (mark :: 0x2B :: digits)
  | unsigned {mark : UInt8} (marks : mark = 0x65 ∨ mark = 0x45) (digits : Bytes) :
      SpellsExponent (some (false, digits)) (mark :: digits)

/-- A text that spells a numeral: its sign, the digits before the point, those behind it and the
exponent. -/
def IsSpelled (numeral : Numeral) (text : Bytes) : Prop :=
  ∃ exponent, SpellsExponent numeral.exponent exponent ∧
    text = (if numeral.negative then [0x2D] else []) ++ (numeral.whole ++
      (spelledFraction numeral.fraction ++ exponent))

/-- A numeral that follows the grammar: there are digits where they have to be, and a zero in front
only if it stands alone. -/
structure WellFormed (numeral : Numeral) : Prop where
  whole : AreDigits numeral.whole
  leading : numeral.whole.head? = some 0x30 → numeral.whole = [0x30]
  fraction : ∀ digits ∈ numeral.fraction, AreDigits digits
  exponent : ∀ part ∈ numeral.exponent, AreDigits part.2

/-- The text of a numeral spells it. -/
theorem isSpelled_spelled (numeral : Numeral) : numeral.IsSpelled numeral.spelled := by
  refine ⟨spelledExponent numeral.exponent, ?_, by simp [spelled]⟩
  rcases numeral.exponent with _ | ⟨_ | _, digits⟩
  · exact .absent
  · exact .positive (.inl rfl) digits
  · exact .negative (.inl rfl) digits

/-- A mark of an exponent is no digit. -/
theorem isDigit_mark {mark : UInt8} (marks : mark = 0x65 ∨ mark = 0x45) : isDigit mark = false := by
  rcases marks with rfl | rfl <;> rfl

section Scans

variable {rest : Bytes} (ends : EndsNumeral rest) {exponent : Option (Bool × Bytes)}
  {exponentText : Bytes} (spells : SpellsExponent exponent exponentText)
include ends spells

/-- Behind the digits in front of an exponent comes no digit. -/
theorem endsDigits_exponent : EndsDigits (exponentText ++ rest) := by
  cases spells with
  | absent => exact ends.endsDigits
  | negative marks | positive marks | unsigned marks =>
    intro octet member
    cases member
    exact isDigit_mark marks

/-- Behind the digits before the point comes no digit. -/
theorem endsDigits_fraction (fraction : Option Bytes) :
    EndsDigits (spelledFraction fraction ++ (exponentText ++ rest)) := by
  cases fraction with
  | none => exact endsDigits_exponent ends spells
  | some digits =>
    intro octet member
    cases member
    rfl

variable (negative : Bool) (whole : Bytes)

omit spells in
/-- An exponent is cut off behind its mark. -/
theorem scanExponent_spelled (fraction : Option Bytes) {part : Bool × Bytes} {mark : UInt8}
    {signed : Bytes} (spells : SpellsExponent (some part) (mark :: signed))
    (are : AreDigits part.2) :
    scanExponent negative whole fraction (signed ++ rest) =
      .complete ⟨negative, whole, fraction, some part⟩ rest := by
  cases spells with
  | negative marks digits | positive marks digits =>
    obtain ⟨takes, drops⟩ := are.takeWhile ends.endsDigits
    simp [scanExponent, takes, drops, are.1]
  | unsigned marks digits =>
    obtain ⟨takes, drops⟩ := are.takeWhile ends.endsDigits
    have noSign : ∀ sign, isDigit sign = false → ∀ behind, signed ++ rest ≠ sign :: behind := by
      rintro sign notDigit behind same
      obtain ⟨head, tail, parts⟩ := List.exists_cons_of_ne_nil are.1
      obtain rfl : signed = head :: tail := parts
      rw [← (List.cons.inj same).1, are.2 head List.mem_cons_self] at notDigit
      cases notDigit
    rw [scanExponent]
    · simp [takes, drops, are.1]
    · exact noSign 0x2D rfl
    · exact noSign 0x2B rfl

omit spells in
/-- A numeral ends behind its digits where no point and no exponent follows. -/
theorem scanFraction_of_ends :
    scanFraction negative whole rest = .complete ⟨negative, whole, none, none⟩ rest := by
  cases rest with
  | nil => rfl
  | cons octet behind =>
    obtain ⟨-, point, small, great⟩ := ends
    unfold scanFraction
    split
    · next same => exact absurd (List.cons.inj same).1 point
    · next same => exact absurd (List.cons.inj same).1 small
    · next same => exact absurd (List.cons.inj same).1 great
    · rfl

/-- What follows the digits before the point is cut off. -/
theorem scanFraction_spelled {fraction : Option Bytes}
    (fractionDigits : ∀ digits ∈ fraction, AreDigits digits)
    (exponentDigits : ∀ part ∈ exponent, AreDigits part.2) :
    scanFraction negative whole (spelledFraction fraction ++ (exponentText ++ rest)) =
      .complete ⟨negative, whole, fraction, exponent⟩ rest := by
  have exponentCut : ∀ fraction part mark signed, exponent = some part →
      exponentText = mark :: signed →
      scanExponent negative whole fraction (signed ++ rest) =
        .complete ⟨negative, whole, fraction, exponent⟩ rest := by
    rintro fraction part mark signed rfl rfl
    exact scanExponent_spelled ends negative whole fraction spells (exponentDigits part rfl)
  cases fraction with
  | none =>
    rw [spelledFraction, List.nil_append]
    cases spells with
    | absent => exact scanFraction_of_ends ends negative whole
    | negative marks digits | positive marks digits | unsigned marks digits =>
      rcases marks with rfl | rfl <;> exact exponentCut none _ _ _ rfl rfl
  | some digits =>
    have are := fractionDigits digits rfl
    obtain ⟨takes, drops⟩ := are.takeWhile (endsDigits_exponent ends spells)
    have present : digits.isEmpty = false := by simpa using are.1
    rw [spelledFraction, List.cons_append]
    conv => lhs; unfold scanFraction
    simp only [takes, drops, present, Bool.false_eq_true, if_false]
    cases spells with
    | absent =>
      rw [List.nil_append]
      cases rest with
      | nil => rfl
      | cons octet behind =>
        obtain ⟨-, -, small, great⟩ := ends
        split
        · next same => exact absurd (List.cons.inj same).1 small
        · next same => exact absurd (List.cons.inj same).1 great
        · rfl
    | negative marks digits | positive marks digits | unsigned marks digits =>
      rcases marks with rfl | rfl <;> exact exponentCut _ _ _ _ rfl rfl

omit spells in
/-- A numeral without its sign is cut off. -/
theorem scanMagnitude_spelled {numeral : Numeral} (wellFormed : numeral.WellFormed)
    (spells : SpellsExponent numeral.exponent exponentText) :
    scanMagnitude negative (numeral.whole ++ (spelledFraction numeral.fraction ++
      (exponentText ++ rest))) =
      .complete ⟨negative, numeral.whole, numeral.fraction, numeral.exponent⟩ rest := by
  have stops := endsDigits_fraction ends spells numeral.fraction
  obtain ⟨takes, drops⟩ := wellFormed.whole.takeWhile stops
  have behind := scanFraction_spelled ends spells negative numeral.whole wellFormed.fraction
    wellFormed.exponent
  unfold scanMagnitude
  split
  · next same =>
    have zero : numeral.whole = [0x30] := wellFormed.leading (by
      obtain ⟨head, tail, parts⟩ := List.exists_cons_of_ne_nil wellFormed.whole.1
      rw [parts, List.cons_append] at same
      rw [parts, (List.cons.inj same).1]
      rfl)
    rw [zero, List.singleton_append] at same
    obtain ⟨-, rfl⟩ := List.cons.inj same
    rw [← zero]
    split
    · next next _ following =>
      rw [following] at stops
      simp only [stops next rfl, Bool.false_eq_true, if_false]
      exact behind
    · exact behind
  · have present : numeral.whole.isEmpty = false := by simpa using wellFormed.whole.1
    simp only [takes, drops, present, Bool.false_eq_true, if_false, behind]

omit spells in
/-- A numeral is cut off as it is spelled. -/
theorem scanNumeral_isSpelled {numeral : Numeral} (wellFormed : numeral.WellFormed) {text : Bytes}
    (spelled : numeral.IsSpelled text) : scanNumeral (text ++ rest) = .complete numeral rest := by
  obtain ⟨exponentText, spells, rfl⟩ := spelled
  have magnitude := scanMagnitude_spelled ends numeral.negative wellFormed spells
  obtain ⟨head, tail, parts⟩ := List.exists_cons_of_ne_nil wellFormed.whole.1
  have digit : isDigit head = true := wellFormed.whole.2 head (parts ▸ List.mem_cons_self)
  simp only [List.append_assoc]
  cases sign : numeral.negative with
  | true =>
    rw [sign] at magnitude
    simpa [scanNumeral, ← sign] using magnitude
  | false =>
    rw [sign] at magnitude
    simp only [Bool.false_eq_true, if_false, List.nil_append]
    unfold scanNumeral
    split
    · next same =>
      rw [parts, List.cons_append] at same
      rw [(List.cons.inj same).1] at digit
      cases digit
    · simpa [← sign] using magnitude

omit spells in
/-- A numeral is cut off from its own text. -/
theorem scanNumeral_spelled {numeral : Numeral} (wellFormed : numeral.WellFormed) :
    scanNumeral (numeral.spelled ++ rest) = .complete numeral rest :=
  scanNumeral_isSpelled ends wellFormed numeral.isSpelled_spelled

end Scans

section Spelled

variable {negative : Bool} {whole : Bytes} {numeral : Numeral} {text rest : Bytes}

/-- Digits that are cut off are digits, if there are any. -/
theorem areDigits_takeWhile (present : (text.takeWhile isDigit).isEmpty = false) :
    AreDigits (text.takeWhile isDigit) :=
  ⟨by simpa using present, fun _ member => List.mem_takeWhile_imp member⟩

/-- An exponent that is cut off is spelled by the text in front of what is left, with its mark. -/
theorem spells_of_scanExponent {fraction : Option Bytes} {mark : UInt8}
    (marks : mark = 0x65 ∨ mark = 0x45)
    (scanned : scanExponent negative whole fraction text = .complete numeral rest) :
    ∃ part signed, numeral = ⟨negative, whole, fraction, some part⟩ ∧ AreDigits part.2 ∧
      SpellsExponent (some part) (mark :: signed) ∧ text = signed ++ rest := by
  unfold scanExponent at scanned
  split at scanned
  next negativeExponent digits signs =>
  split at scanned
  · cases scanned
  next present =>
  cases scanned
  have parts := List.takeWhile_append_dropWhile (p := isDigit) (l := digits)
  have are := areDigits_takeWhile (Bool.eq_false_iff.mpr present)
  split at signs <;> cases signs
  · exact ⟨_, 0x2D :: _, rfl, are, .negative marks _, by rw [List.cons_append, parts]⟩
  · exact ⟨_, 0x2B :: _, rfl, are, .positive marks _, by rw [List.cons_append, parts]⟩
  · exact ⟨_, _, rfl, are, .unsigned marks _, parts.symm⟩

/-- What is cut off behind the digits before the point spells a fraction and an exponent. -/
theorem spells_of_scanFraction
    (scanned : scanFraction negative whole text = .complete numeral rest) :
    ∃ fraction exponent exponentText, numeral = ⟨negative, whole, fraction, exponent⟩ ∧
      (∀ digits ∈ fraction, AreDigits digits) ∧ (∀ part ∈ exponent, AreDigits part.2) ∧
      SpellsExponent exponent exponentText ∧
      text = spelledFraction fraction ++ (exponentText ++ rest) := by
  have marked : ∀ fraction mark behind, mark = 0x65 ∨ mark = 0x45 →
      scanExponent negative whole fraction behind = .complete numeral rest →
      ∃ exponent exponentText, numeral = ⟨negative, whole, fraction, exponent⟩ ∧
        (∀ part ∈ exponent, AreDigits part.2) ∧ SpellsExponent exponent exponentText ∧
        mark :: behind = exponentText ++ rest := by
    intro fraction mark behind marks scanned
    obtain ⟨part, signed, rfl, are, spells, rfl⟩ := spells_of_scanExponent marks scanned
    exact ⟨_, _, rfl, by simpa using are, spells, rfl⟩
  have unmarked : ∀ {fraction behind},
      NumeralScan.complete ⟨negative, whole, fraction, none⟩ behind = .complete numeral rest →
      ∃ exponent exponentText, numeral = ⟨negative, whole, fraction, exponent⟩ ∧
        (∀ part ∈ exponent, AreDigits part.2) ∧ SpellsExponent exponent exponentText ∧
        behind = exponentText ++ rest := by
    intro fraction behind complete
    cases complete
    exact ⟨none, [], rfl, by simp, .absent, rfl⟩
  unfold scanFraction at scanned
  split at scanned
  · next digits =>
    dsimp only at scanned
    by_cases absent : (digits.takeWhile isDigit).isEmpty = true
    · rw [if_pos absent] at scanned
      cases scanned
    rw [if_neg absent] at scanned
    have are := areDigits_takeWhile (Bool.eq_false_iff.mpr absent)
    have parts := List.takeWhile_append_dropWhile (p := isDigit) (l := digits)
    have tail : ∃ exponent exponentText,
        numeral = ⟨negative, whole, some (digits.takeWhile isDigit), exponent⟩ ∧
        (∀ part ∈ exponent, AreDigits part.2) ∧ SpellsExponent exponent exponentText ∧
        digits.dropWhile isDigit = exponentText ++ rest := by
      split at scanned
      · next same => rw [same]; exact marked _ _ _ (.inl rfl) scanned
      · next same => rw [same]; exact marked _ _ _ (.inr rfl) scanned
      · exact unmarked scanned
    obtain ⟨exponent, exponentText, rfl, exponentDigits, spells, behind⟩ := tail
    exact ⟨_, exponent, exponentText, rfl, by simpa using are, exponentDigits, spells, by
      rw [spelledFraction, List.cons_append, ← behind, parts]⟩
  · next behind =>
    obtain ⟨exponent, exponentText, rfl, tail⟩ := marked none _ _ (.inl rfl) scanned
    exact ⟨none, exponent, exponentText, rfl, by simp, tail⟩
  · next behind =>
    obtain ⟨exponent, exponentText, rfl, tail⟩ := marked none _ _ (.inr rfl) scanned
    exact ⟨none, exponent, exponentText, rfl, by simp, tail⟩
  · obtain ⟨exponent, exponentText, rfl, tail⟩ := unmarked scanned
    exact ⟨none, exponent, exponentText, rfl, by simp, tail⟩

/-- A numeral without its sign that is cut off follows the grammar and is spelled. -/
theorem spells_of_scanMagnitude
    (scanned : scanMagnitude negative text = .complete numeral rest) :
    numeral.WellFormed ∧ numeral.negative = negative ∧ ∃ exponentText,
      SpellsExponent numeral.exponent exponentText ∧
      text = numeral.whole ++ (spelledFraction numeral.fraction ++ (exponentText ++ rest)) := by
  have followed : ∀ whole behind, AreDigits whole →
      (whole.head? = some 0x30 → whole = [0x30]) →
      scanFraction negative whole behind = .complete numeral rest →
      numeral.WellFormed ∧ numeral.negative = negative ∧ ∃ exponentText,
        SpellsExponent numeral.exponent exponentText ∧
        whole ++ behind =
          numeral.whole ++ (spelledFraction numeral.fraction ++ (exponentText ++ rest)) := by
    intro whole behind are leading scanned
    obtain ⟨fraction, exponent, exponentText, rfl, fractionDigits, exponentDigits, spells, rfl⟩ :=
      spells_of_scanFraction scanned
    exact ⟨⟨are, leading, fractionDigits, exponentDigits⟩, rfl, exponentText, spells, rfl⟩
  have zero : AreDigits [0x30] := ⟨by simp, by simp [isDigit]⟩
  unfold scanMagnitude at scanned
  split at scanned
  · next behind =>
    split at scanned
    · split at scanned
      · cases scanned
      · exact followed [0x30] _ zero (fun _ => rfl) scanned
    · exact followed [0x30] [] zero (fun _ => rfl) scanned
  · next noZero =>
    dsimp only at scanned
    by_cases absent : (text.takeWhile isDigit).isEmpty = true
    · rw [if_pos absent] at scanned
      cases scanned
    rw [if_neg absent] at scanned
    have are := areDigits_takeWhile (Bool.eq_false_iff.mpr absent)
    have parts := List.takeWhile_append_dropWhile (p := isDigit) (l := text)
    have spelled := followed _ _ are (fun starts => ?_) scanned
    · rwa [parts] at spelled
    · obtain ⟨tail, digits⟩ := List.head?_eq_some_iff.mp starts
      rw [digits, List.cons_append] at parts
      exact (noZero _ parts.symm).elim

/-- A numeral that is cut off follows the grammar, and is spelled by the text in front of what is
left. -/
theorem isSpelled_of_scanNumeral (scanned : scanNumeral text = .complete numeral rest) :
    numeral.WellFormed ∧ ∃ own, numeral.IsSpelled own ∧ text = own ++ rest := by
  unfold scanNumeral at scanned
  split at scanned
  all_goals
    obtain ⟨wellFormed, sign, exponentText, spells, rfl⟩ := spells_of_scanMagnitude scanned
    exact ⟨wellFormed, _, ⟨exponentText, spells, rfl⟩, by simp [sign]⟩

end Spelled

end Numeral

/-- The bytes of an integer in decimal: its digits, after a minus sign if it is negative. -/
theorem utf8_decimalInt (value : Int) :
    Text.utf8 (Text.decimalInt value) =
      (if value < 0 then [0x2D] else []) ++ decimalDigits value.natAbs := by
  unfold Text.decimalInt
  split
  · rw [Text.utf8_append, utf8_decimal]
    rfl
  · rw [utf8_decimal, List.nil_append]

/-- The numeral of an integer. -/
def integerNumeral (value : Int) : Numeral :=
  ⟨decide (value < 0), decimalDigits value.natAbs, none, none⟩

/-- The numeral of an integer follows the grammar. -/
theorem wellFormed_integerNumeral (value : Int) : (integerNumeral value).WellFormed where
  whole := areDigits_decimalDigits value.natAbs
  leading := by
    intro zero
    obtain ⟨head, tail, digits, -, alone⟩ := decimalDigits_cons value.natAbs
    simp only [integerNumeral, digits, List.head?_cons, Option.some.injEq] at zero ⊢
    rw [zero, (alone zero).2]
  fraction := by simp [integerNumeral]
  exponent := by simp [integerNumeral]

/-- An integer in decimal is the text of its numeral. -/
theorem utf8_decimalInt_eq_spelled (value : Int) :
    Text.utf8 (Text.decimalInt value) = (integerNumeral value).spelled := by
  rw [utf8_decimalInt]
  simp [integerNumeral, Numeral.spelled, Numeral.spelledFraction, Numeral.spelledExponent]

/-- An integer that fits into 64 bits is the value of its own numeral. -/
theorem value_numeral {value : Int} (within : leastInteger ≤ value ∧ value < integerLimit) :
    (integerNumeral value).value = .ok (.integer value within) := by
  have bounds := within
  simp only [leastInteger, integerLimit] at bounds
  unfold Numeral.value integerNumeral
  rw [appendDigits_decimalDigits (by omega)]
  by_cases negative : value < 0
  · have fits : value.natAbs ≠ 0 ∧ value.natAbs ≤ 9223372036854775808 := by omega
    have whole : -(value.natAbs : Int) = value := by omega
    simp only [negative, decide_true, if_true, dif_pos fits, whole]
  · have fits : value.natAbs < 18446744073709551616 := by omega
    have whole : (value.natAbs : Int) = value := by omega
    simp only [negative, decide_false, Bool.false_eq_true, if_false, dif_pos fits, whole]

end GatedResolver.Json
