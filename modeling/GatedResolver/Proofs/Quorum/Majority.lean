import GatedResolver.Quorum.Panel
import Mathlib.Algebra.Ring.Nat
import Mathlib.Data.Finset.Card
import Mathlib.Data.Fintype.Card

/-!
# Majorities

Sets of members that are all large enough have a member in common in pairs exactly if they are more
than half of all (`overlaps_iff`). Without a setting a tally requires the least number that is
enough for this, out of the members that it counts; at the top of the range it counts no more than
the greatest word. The same comes out in word arithmetic, where no step passes that word
(`ofMembers_toNat`).
-/

namespace GatedResolver.Quorum

section Words

/-- The greatest 32-bit word. -/
def greatestWord : UInt32 := 4294967295

/-- A 64-bit count as a 32-bit word, the greatest one if it does not fit. -/
def narrow (count : UInt64) : UInt32 :=
  if count.toNat < 2 ^ 32 then count.toUInt32 else greatestWord

/-- The sum of two words, the greatest one if it does not fit. -/
def addUpTo (left right : UInt32) : UInt32 :=
  if left.toNat + right.toNat < 2 ^ 32 then left + right else greatestWord

/-- The tally of so many members in word arithmetic. -/
def Tally.ofCount (count : UInt64) (explicit : Option UInt32) : Tally where
  required := max (explicit.getD (addUpTo (narrow count / 2) 1)) 1
  responded := narrow count

/-- A narrowed count is the count itself or the greatest word. -/
theorem toNat_narrow (count : UInt64) : (narrow count).toNat = min count.toNat (2 ^ 32 - 1) := by
  unfold narrow
  split
  · next fits =>
    rw [UInt64.toNat_toUInt32]
    omega
  · next beyond =>
    have greatest : greatestWord.toNat = 2 ^ 32 - 1 := rfl
    omega

/-- One more than half of a word is a word. -/
theorem toNat_half_succ (word : UInt32) : (word / 2 + 1).toNat = word.toNat / 2 + 1 := by
  have bound := word.toNat_lt
  rw [UInt32.toNat_add, UInt32.toNat_div]
  simp only [UInt32.reduceToNat]
  omega

/-- So adding one to half of a word does not reach the greatest word. -/
theorem addUpTo_half (word : UInt32) : addUpTo (word / 2) 1 = word / 2 + 1 := by
  refine if_pos ?_
  have bound := word.toNat_lt
  rw [UInt32.toNat_div]
  simp only [UInt32.reduceToNat]
  omega

end Words

section Numbers

/-- The greater of two words is the greater number. -/
theorem toNat_max (left right : UInt32) : (max left right).toNat = max left.toNat right.toNat := by
  change (if left ≤ right then right else left).toNat = _
  simp only [UInt32.le_iff_toNat_le]
  split <;> omega

/-- So many members are counted. -/
theorem toNat_responded (members : Nat) (explicit : Option UInt32) :
    (Tally.ofMembers members explicit).responded.toNat = min members (2 ^ 32 - 1) := by
  refine UInt32.toNat_ofNat_of_lt' ?_
  simp only [clampCount, UInt32.size]
  omega

/-- More than half of the counted members are a majority. -/
theorem toNat_majority (members : Nat) :
    (majority members).toNat = min members (2 ^ 32 - 1) / 2 + 1 := by
  refine UInt32.toNat_ofNat_of_lt' ?_
  simp only [clampCount, UInt32.size]
  omega

/-- With a setting so many answers are required, and one in any case. -/
theorem toNat_required_some (members : Nat) (number : UInt32) :
    (Tally.ofMembers members (some number)).required.toNat = max 1 number.toNat := by
  refine (toNat_max number 1).trans ?_
  rw [Nat.max_comm]
  rfl

/-- Without a setting a majority of the counted members is required. -/
theorem toNat_required_none (members : Nat) :
    (Tally.ofMembers members none).required.toNat =
      (Tally.ofMembers members none).responded.toNat / 2 + 1 := by
  have required := toNat_max (majority members) 1
  rw [toNat_majority] at required
  rw [toNat_responded]
  refine required.trans (Nat.max_eq_left ?_)
  simp only [UInt32.reduceToNat]
  omega

/-- Enough members answered if their number is not below the one that is required. -/
theorem isMet_iff (tally : Tally) :
    tally.isMet = true ↔ tally.required.toNat ≤ tally.responded.toNat := by
  rw [Tally.isMet, decide_eq_true_eq, UInt32.le_iff_toNat_le]

/-- The tally of a 64-bit count of members in word arithmetic. -/
theorem ofMembers_toNat (count : UInt64) (explicit : Option UInt32) :
    Tally.ofMembers count.toNat explicit = Tally.ofCount count explicit := by
  have counted : UInt32.ofNat (clampCount count.toNat) = narrow count := by
    refine UInt32.toNat_inj.mp ?_
    rw [toNat_narrow]
    exact toNat_responded count.toNat explicit
  have half : majority count.toNat = addUpTo (narrow count / 2) 1 := by
    refine UInt32.toNat_inj.mp ?_
    rw [addUpTo_half, toNat_half_succ, toNat_narrow, toNat_majority]
  rw [Tally.ofMembers, Tally.ofCount, counted, half]

end Numbers

section Overlap

/-- Any two sets of at least so many members have a member in common. -/
def Overlaps (members threshold : Nat) : Prop :=
  ∀ left right : Finset (Fin members),
    threshold ≤ left.card → threshold ≤ right.card → (left ∩ right).Nonempty

/-- Sets of members overlap exactly if they are more than half of all. -/
theorem overlaps_iff {members threshold : Nat} :
    Overlaps members threshold ↔ members < 2 * threshold := by
  constructor
  · intro overlaps
    by_contra few
    -- So many members and all others have no member in common.
    have room : threshold ≤ (Finset.univ : Finset (Fin members)).card := by
      rw [Finset.card_univ, Fintype.card_fin]
      omega
    obtain ⟨left, -, size⟩ := Finset.exists_subset_card_eq room
    have others : threshold ≤ (leftᶜ).card := by
      rw [Finset.card_compl, Fintype.card_fin, size]
      omega
    have common := overlaps left leftᶜ size.ge others
    rw [Finset.inter_compl] at common
    exact Finset.not_nonempty_empty common
  · intro most left right leftSize rightSize
    refine Finset.inter_nonempty_of_card_lt_card_add_card (Finset.subset_univ left)
      (Finset.subset_univ right) ?_
    rw [Finset.card_univ, Fintype.card_fin]
    omega

/-- Exactly from the required number on, sets of the counted members overlap. -/
theorem overlaps_responded_iff (members threshold : Nat) :
    Overlaps (Tally.ofMembers members none).responded.toNat threshold ↔
      (Tally.ofMembers members none).required.toNat ≤ threshold := by
  rw [overlaps_iff, toNat_required_none]
  omega

/-- With more members no fewer answers are required. -/
theorem required_mono {fewer more : Nat} (atMost : fewer ≤ more) :
    (Tally.ofMembers fewer none).required ≤ (Tally.ofMembers more none).required := by
  rw [UInt32.le_iff_toNat_le, toNat_required_none, toNat_required_none, toNat_responded,
    toNat_responded]
  omega

end Overlap

/-- What a tally of members says. Word arithmetic gives it without a sum that is cut off. It counts
the members up to the greatest word, and a setting above zero is required as it is. Without one the
least number is required from which on sets of the counted members overlap; it grows with the
members, and any member at all makes enough. A panel reports the tally of its members about every
name. -/
theorem ofMembers_requires_majority :
    (∀ (count : UInt64) explicit,
      Tally.ofMembers count.toNat explicit = Tally.ofCount count explicit ∧
      (narrow count).toNat = min count.toNat (2 ^ 32 - 1) ∧
      addUpTo (narrow count / 2) 1 = narrow count / 2 + 1 ∧
      (narrow count / 2 + 1).toNat = (narrow count).toNat / 2 + 1) ∧
    (∀ members explicit,
      (Tally.ofMembers members explicit).responded.toNat = min members (2 ^ 32 - 1)) ∧
    (∀ members number,
      let tally := Tally.ofMembers members (some number)
      tally.required.toNat = max 1 number.toNat ∧
      (tally.isMet = true ↔ max 1 number.toNat ≤ tally.responded.toNat)) ∧
    (∀ members,
      let tally := Tally.ofMembers members none
      tally.required.toNat = tally.responded.toNat / 2 + 1 ∧
      tally.responded.toNat < 2 * tally.required.toNat ∧
      (∀ threshold, Overlaps tally.responded.toNat threshold ↔
        tally.required.toNat ≤ threshold) ∧
      (tally.isMet = true ↔ 1 ≤ members)) ∧
    (∀ fewer more, fewer ≤ more →
      (Tally.ofMembers fewer none).required ≤ (Tally.ofMembers more none).required) ∧
    (∀ (panel : Panel) name,
      (panel.reply name).tally = Tally.ofMembers panel.members.length panel.required) ∧
    (∀ settings name, ((Panel.ofSettings settings).reply name).tally =
      Tally.ofMembers settings.members.length settings.required) := by
  refine ⟨fun count explicit => ⟨ofMembers_toNat count explicit, toNat_narrow count,
    addUpTo_half _, toNat_half_succ _⟩, toNat_responded, ?withSetting, ?withoutSetting,
    fun _ _ => required_mono, fun _ _ => rfl, fun _ _ => rfl⟩
  case withSetting =>
    intro members number
    refine ⟨toNat_required_some members number, ?_⟩
    rw [isMet_iff, toNat_required_some]
  case withoutSetting =>
    intro members
    have required := toNat_required_none members
    refine ⟨required, by omega, overlaps_responded_iff members, ?_⟩
    rw [isMet_iff, required, toNat_responded]
    omega

/-- Beyond the greatest word the tally stays what it is there, where more than half of all words are
required. -/
theorem ofMembers_requires_majority_beyondWords :
    Tally.ofMembers (2 ^ 64 - 1) none = ⟨2147483648, 4294967295⟩ ∧
      4294967295 ≤ 2 ^ 64 - 1 ∧
      (Tally.ofMembers 4294967295 none).required ≤ (Tally.ofMembers (2 ^ 64 - 1) none).required := by
  obtain ⟨-, -, -, -, mono, -⟩ := ofMembers_requires_majority
  exact ⟨by decide, by decide, mono _ _ (by decide)⟩

end GatedResolver.Quorum
