import GatedResolver.Binary64.Shortest
import Mathlib.Order.Monotone.Basic
import Mathlib.Tactic.NormNum
import Mathlib.Tactic.Ring

/-!
# Decimals read back as one number only

The reals that round to a magnitude make an interval. The intervals of neighbours meet in one
real, which goes to the magnitude with the even bits, so no decimal reads back as two
magnitudes (`magnitudeBits_eq_of_readsBack`). The shortest decimal of a number reads back as that
number (`readsBack_shortest`): eighteen digits are enough, because the steps between decimals of
so many digits are narrower than every interval around.
-/

namespace GatedResolver.Binary64

section Intervals

/-- The scale of magnitude bits. -/
def scaleOf (bits : Nat) : Nat :=
  bits / exponentWeight - 1

/-- The significand of magnitude bits. -/
def significandOf (bits : Nat) : Nat :=
  bits - scaleOf bits * exponentWeight

/-- The upper end of the interval of magnitude bits, in quarter units. -/
def upperEnd (bits : Nat) : Nat :=
  4 * (significandOf bits * 2 ^ scaleOf bits) + 2 * 2 ^ scaleOf bits

/-- The lower end of the interval of magnitude bits: the upper end of the one before. -/
def lowerEnd (bits : Nat) : Nat :=
  if bits = 0 then 0 else upperEnd (bits - 1)

/-- The next magnitude has the next significand, or the least one of the next scale. -/
theorem significandOf_succ (bits : Nat) :
    (scaleOf (bits + 1) = scaleOf bits ∧ significandOf (bits + 1) = significandOf bits + 1 ∧
      ¬ (scaleOf (bits + 1) ≠ 0 ∧ significandOf (bits + 1) = exponentWeight)) ∨
    (scaleOf (bits + 1) = scaleOf bits + 1 ∧ significandOf bits + 1 = 2 * exponentWeight ∧
      significandOf (bits + 1) = exponentWeight) := by
  simp only [significandOf, scaleOf, exponentWeight]
  omega

/-- The significand of a number is less than twice the weight of the lowest exponent bit. -/
theorem significandOf_lt (bits : Nat) : significandOf bits < 2 * exponentWeight := by
  simp only [significandOf, scaleOf, exponentWeight]
  omega

/-- The intervals of greater magnitudes end later. -/
theorem upperEnd_lt_succ (bits : Nat) : upperEnd bits < upperEnd (bits + 1) := by
  have positive : 0 < 2 ^ scaleOf bits := Nat.two_pow_pos _
  rcases significandOf_succ bits with ⟨scale, significand, -⟩ | ⟨scale, last, first⟩
  · simp only [upperEnd, scale, significand]
    rw [Nat.add_mul]
    omega
  · have last : significandOf bits = 2 * exponentWeight - 1 := by omega
    simp only [upperEnd, scale, last, first, exponentWeight, Nat.pow_succ]
    omega

/-- The intervals of greater magnitudes end later. -/
theorem upperEnd_strictMono : StrictMono upperEnd :=
  strictMono_nat_of_lt_succ upperEnd_lt_succ

/-- What is half of the distance to the smaller neighbour below a magnitude is the end of the
interval of that neighbour. -/
theorem quarterUnits_sub_roomBelow (number : Binary64) :
    number.quarterUnits - number.roomBelow = lowerEnd number.magnitudeBits := by
  change 4 * (significandOf number.magnitudeBits * 2 ^ scaleOf number.magnitudeBits) -
    (if scaleOf number.magnitudeBits ≠ 0 ∧ significandOf number.magnitudeBits = exponentWeight then
      2 ^ scaleOf number.magnitudeBits else 2 * 2 ^ scaleOf number.magnitudeBits) = _
  cases number.magnitudeBits with
  | zero => rfl
  | succ bits =>
    simp only [lowerEnd, Nat.add_one_ne_zero, if_false, Nat.add_sub_cancel]
    rcases significandOf_succ bits with ⟨scale, significand, inside⟩ | ⟨scale, last, first⟩
    · rw [if_neg inside]
      simp only [upperEnd, scale, significand, Nat.add_mul]
      omega
    · have last : significandOf bits = 2 * exponentWeight - 1 := by omega
      rw [if_pos ⟨by omega, first⟩]
      simp only [upperEnd, scale, last, first, exponentWeight, Nat.pow_succ]
      omega

/-- What is half of the distance to the greater neighbour above a magnitude is the end of its
interval. -/
theorem quarterUnits_add_roomAbove (number : Binary64) :
    number.quarterUnits + number.roomAbove = upperEnd number.magnitudeBits :=
  rfl

/-- A decimal that reads back lies in the interval of the number, and between its ends if the bits
are odd. -/
theorem readsBack_iff {number : Binary64} {digits place : Nat} :
    number.readsBack digits place = true ↔
      (if number.magnitudeBits % 2 = 0 then
        lowerEnd number.magnitudeBits * 10 ^ decimalShift ≤
            quarterUnitsPerOne * (digits * 10 ^ place) ∧
          quarterUnitsPerOne * (digits * 10 ^ place) ≤
            upperEnd number.magnitudeBits * 10 ^ decimalShift
      else
        lowerEnd number.magnitudeBits * 10 ^ decimalShift <
            quarterUnitsPerOne * (digits * 10 ^ place) ∧
          quarterUnitsPerOne * (digits * 10 ^ place) <
            upperEnd number.magnitudeBits * 10 ^ decimalShift) := by
  have product : digits * (quarterUnitsPerOne * Nat.pow 10 place) =
      quarterUnitsPerOne * (digits * 10 ^ place) := Nat.mul_left_comm _ _ _
  simp only [readsBack, product, quarterUnits_sub_roomBelow, quarterUnits_add_roomAbove]
  split <;> simp [Nat.pow_eq]

/-- A decimal does not read back as a magnitude and as a greater one. -/
theorem not_readsBack_of_lt {left right : Binary64} {leftDigits leftPlace rightDigits rightPlace : Nat}
    (same : leftDigits * 10 ^ leftPlace = rightDigits * 10 ^ rightPlace)
    (less : left.magnitudeBits < right.magnitudeBits)
    (leftReads : left.readsBack leftDigits leftPlace = true)
    (rightReads : right.readsBack rightDigits rightPlace = true) : False := by
  rw [readsBack_iff, same] at leftReads
  rw [readsBack_iff] at rightReads
  have positive : 0 < 10 ^ decimalShift := Nat.pow_pos (by decide)
  have lower : lowerEnd right.magnitudeBits = upperEnd (right.magnitudeBits - 1) :=
    if_neg (by omega)
  have ordered : upperEnd left.magnitudeBits ≤ upperEnd (right.magnitudeBits - 1) :=
    upperEnd_strictMono.monotone (by omega)
  rw [← lower] at ordered
  have scaled := Nat.mul_le_mul_right (10 ^ decimalShift) ordered
  -- The decimal is the one real in which both intervals end, so these are of neighbours.
  have met : upperEnd left.magnitudeBits = upperEnd (right.magnitudeBits - 1) := by
    rw [← lower]
    refine Nat.eq_of_mul_eq_mul_right positive (Nat.le_antisymm scaled ?_)
    split at leftReads <;> split at rightReads <;> omega
  have neighbours := upperEnd_strictMono.injective met
  split at leftReads <;> split at rightReads <;> omega

/-- A decimal reads back as one magnitude only. -/
theorem magnitudeBits_eq_of_readsBack {left right : Binary64}
    {leftDigits leftPlace rightDigits rightPlace : Nat}
    (same : leftDigits * 10 ^ leftPlace = rightDigits * 10 ^ rightPlace)
    (leftReads : left.readsBack leftDigits leftPlace = true)
    (rightReads : right.readsBack rightDigits rightPlace = true) :
    left.magnitudeBits = right.magnitudeBits := by
  rcases Nat.lt_trichotomy left.magnitudeBits right.magnitudeBits with less | equal | greater
  · exact (not_readsBack_of_lt same less leftReads rightReads).elim
  · exact equal
  · exact (not_readsBack_of_lt same.symm greater rightReads leftReads).elim

end Intervals

section Search

variable {number : Binary64}

/-- Whether a decimal reads back hangs on its value alone. -/
theorem readsBack_congr {digits place otherDigits otherPlace : Nat}
    (same : digits * 10 ^ place = otherDigits * 10 ^ otherPlace) :
    number.readsBack digits place = number.readsBack otherDigits otherPlace := by
  rw [Bool.eq_iff_iff, readsBack_iff, readsBack_iff, same]

/-- A quotient is rounded to the integer below or to the one above. -/
theorem roundQuotient_eq (tie : Tie) (numerator denominator : Nat) :
    roundQuotient tie numerator denominator = numerator / denominator ∨
      roundQuotient tie numerator denominator = numerator / denominator + 1 := by
  simp only [roundQuotient]
  repeat' split
  all_goals simp

/-- A quotient is rounded by half of the denominator at most. -/
theorem roundQuotient_bounds (tie : Tie) (numerator : Nat) {denominator : Nat} (positive : 0 < denominator) :
    2 * (roundQuotient tie numerator denominator * denominator) ≤ 2 * numerator + denominator ∧
      2 * numerator ≤ 2 * (roundQuotient tie numerator denominator * denominator) + denominator := by
  have parts := Nat.div_add_mod' numerator denominator
  have rest := Nat.mod_lt numerator positive
  have above : (numerator / denominator + 1) * denominator =
      numerator / denominator * denominator + denominator := Nat.succ_mul _ _
  simp only [roundQuotient]
  repeat' split
  all_goals omega

/-- A decimal that is found on a grid reads back. -/
theorem readsBack_of_onGrid {tie : Tie} {place digits : Nat}
    (found : onGrid? tie number place = some digits) : number.readsBack digits place = true := by
  simp only [onGrid?] at found
  split at found
  · next below above =>
    rw [← Option.some.inj found]
    rcases roundQuotient_eq tie (number.quarterUnits * Nat.pow 10 decimalShift)
      (quarterUnitsPerOne * Nat.pow 10 place) with rounded | rounded
    · rw [rounded]
      exact below
    · rw [rounded]
      exact above
  · next below _ =>
    rw [← Option.some.inj found]
    exact below
  · next _ above =>
    rw [← Option.some.inj found]
    exact above
  · simp at found

/-- The significand of a number other than zero is positive. -/
theorem significandOf_pos (positive : number.isZero = false) :
    0 < significandOf number.magnitudeBits := by
  have bits : number.magnitudeBits ≠ 0 := by simpa [isZero] using positive
  simp only [significandOf, scaleOf, exponentWeight]
  omega

/-- A number other than zero has a leading digit, and seventeen places below it. -/
theorem leadingPlace_bounds (positive : number.isZero = false) :
    18 ≤ number.leadingPlace ∧ quarterUnitsPerOne * 10 ^ (number.leadingPlace - 1) ≤
      number.quarterUnits * 10 ^ decimalShift := by
  have denominator : 0 < quarterUnitsPerOne := by decide +kernel
  have atLeast : 4 ≤ number.quarterUnits :=
    Nat.mul_le_mul_left 4 (Nat.mul_pos (significandOf_pos positive) (Nat.two_pow_pos _))
  have places : ∀ count, 0 < count → (number.leadingPlace ≤ count ↔
      number.quarterUnits * 10 ^ decimalShift / quarterUnitsPerOne < 10 ^ count) := by
    intro count least
    rw [leadingPlace, digitList, Nat.length_toDigits_le_iff (by decide) least, Nat.pow_eq]
  have enough : 18 ≤ number.leadingPlace := by
    refine Nat.le_of_not_lt fun few => ?_
    have less := (places 17 (by decide)).mp (Nat.le_of_lt_succ few)
    have small : 10 ^ 17 * quarterUnitsPerOne ≤ 4 * 10 ^ decimalShift := by decide +kernel
    rw [Nat.div_lt_iff_lt_mul denominator] at less
    exact absurd (small.trans (Nat.mul_le_mul_right _ atLeast)) (Nat.not_le_of_lt less)
  have last : 0 < number.leadingPlace - 1 ∧ number.leadingPlace - 1 < number.leadingPlace := by omega
  refine ⟨enough, ?_⟩
  rw [Nat.mul_comm, ← Nat.le_div_iff_mul_le denominator]
  by_contra less
  exact absurd ((places _ last.1).mpr (Nat.lt_of_not_le less)) (Nat.not_le_of_lt last.2)

/-- The ends of an interval are a quarter of a step from the magnitude, or further. -/
theorem ends_apart (positive : number.isZero = false) :
    lowerEnd number.magnitudeBits + 2 ^ number.scale ≤ number.quarterUnits ∧
      number.quarterUnits + 2 ^ number.scale ≤ upperEnd number.magnitudeBits := by
  have least : 2 ^ number.scale ≤ number.quarterUnits := by
    have some := Nat.mul_le_mul_right (2 ^ number.scale) (significandOf_pos positive)
    change 2 ^ number.scale ≤ 4 * (significandOf number.magnitudeBits * 2 ^ number.scale)
    omega
  have room : 2 ^ number.scale ≤ number.roomBelow ∧ 2 ^ number.scale ≤ number.roomAbove := by
    simp only [roomBelow, roomAbove, Nat.pow_eq]
    split <;> omega
  rw [← quarterUnits_sub_roomBelow, ← quarterUnits_add_roomAbove]
  omega

/-- The decimal of eighteen digits that is nearest to a number reads back. -/
theorem readsBack_nearest (tie : Tie) (positive : number.isZero = false) :
    number.readsBack (roundQuotient tie (number.quarterUnits * Nat.pow 10 decimalShift)
      (quarterUnitsPerOne * Nat.pow 10 (number.leadingPlace - 18))) (number.leadingPlace - 18) =
        true := by
  obtain ⟨enough, leading⟩ := leadingPlace_bounds positive
  obtain ⟨lower, upper⟩ := ends_apart positive
  have places : number.leadingPlace - 1 = number.leadingPlace - 18 + 17 := by omega
  have value : number.quarterUnits ≤ 4 * (2 * exponentWeight * 2 ^ number.scale) :=
    Nat.mul_le_mul_left 4 (Nat.mul_le_mul_right _ (Nat.le_of_lt (significandOf_lt _)))
  simp only [Nat.pow_eq, readsBack_iff]
  rw [places, Nat.pow_add, ← Nat.mul_assoc] at leading
  generalize number.leadingPlace - 18 = place at leading ⊢
  have shifted : 0 < 10 ^ decimalShift := Nat.pow_pos (by decide)
  generalize 10 ^ decimalShift = shift at leading shifted ⊢
  have quarter := Nat.mul_pos (Nat.two_pow_pos number.scale) shifted
  have denominator : 0 < quarterUnitsPerOne * 10 ^ place :=
    Nat.mul_pos (by decide +kernel) (Nat.pow_pos (by decide))
  have rounded := roundQuotient_bounds tie (number.quarterUnits * shift) denominator
  generalize roundQuotient tie (number.quarterUnits * shift) (quarterUnitsPerOne * 10 ^ place) =
    digits at rounded ⊢
  rw [Nat.mul_left_comm digits] at rounded
  -- The steps of decimals with eighteen digits are narrower than twice a quarter of a step.
  have lowerScaled := Nat.mul_le_mul_right shift lower
  have upperScaled := Nat.mul_le_mul_right shift upper
  have valueScaled := Nat.mul_le_mul_right shift value
  simp only [exponentWeight, Nat.add_mul, Nat.mul_assoc] at lowerScaled upperScaled valueScaled
  split <;> omega

/-- What the search for a decimal finds reads back. -/
theorem readsBack_searchGrids (tie : Tie) (positive : number.isZero = false) {used count : Nat}
    (all : used + count = 18) :
    ∃ digits place : Nat, searchGrids tie number number.leadingPlace used count =
        ⟨digits, (place : Int) - decimalShift⟩ ∧ number.readsBack digits place = true := by
  induction count generalizing used with
  | zero =>
    obtain rfl : used = 18 := all
    exact ⟨_, _, rfl, readsBack_nearest tie positive⟩
  | succ count inductionHypothesis =>
    rw [searchGrids]
    split
    · next digits found => exact ⟨digits, _, rfl, readsBack_of_onGrid found⟩
    · exact inductionHypothesis (by omega)

end Search

section Decimals

/-- The integer that a decimal is after a shift of its point to the right. -/
def Decimal.shifted (decimal : Decimal) : Nat :=
  decimal.digits * 10 ^ (decimal.exponent + decimalShift).toNat

/-- Zeros that are taken from the digits of a decimal do not change it. -/
theorem Decimal.shifted_withoutZeros (fuel : Nat) (decimal : Decimal)
    (least : -(decimalShift : Int) ≤ decimal.exponent) :
    (decimal.withoutZeros fuel).shifted = decimal.shifted ∧
      -(decimalShift : Int) ≤ (decimal.withoutZeros fuel).exponent := by
  induction fuel generalizing decimal with
  | zero => exact ⟨rfl, least⟩
  | succ fuel inductionHypothesis =>
    rw [Decimal.withoutZeros]
    split
    · next zero =>
      obtain ⟨same, greater⟩ := inductionHypothesis
        ⟨decimal.digits / 10, decimal.exponent + 1⟩ (by simp only; omega)
      refine ⟨same.trans ?_, greater⟩
      have place : (decimal.exponent + 1 + decimalShift).toNat =
          (decimal.exponent + decimalShift).toNat + 1 := by omega
      have whole : decimal.digits / 10 * 10 = decimal.digits := by omega
      simp only [shifted, place, Nat.pow_succ']
      rw [← Nat.mul_assoc, whole]
    · exact ⟨rfl, least⟩

/-- The shortest decimal of a number reads back as that number. -/
theorem readsBack_shortest (tie : Tie) {number : Binary64} (positive : number.isZero = false) :
    number.readsBack (shortest tie number).shifted 0 = true ∧
      -(decimalShift : Int) ≤ (shortest tie number).exponent := by
  obtain ⟨digits, place, found, reads⟩ :=
    readsBack_searchGrids tie positive (rfl : 1 + 17 = 18)
  obtain ⟨same, least⟩ := Decimal.shifted_withoutZeros 20
    ⟨digits, (place : Int) - decimalShift⟩ (by simp only; omega)
  rw [shortest, found, same]
  refine ⟨?_, least⟩
  rw [← reads]
  refine readsBack_congr ?_
  simp [Decimal.shifted]

end Decimals

end GatedResolver.Binary64
