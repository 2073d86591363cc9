import GatedResolver.Proofs.Text.Utf8
import Mathlib.Data.String.Basic

/-!
# The order of texts and of their bytes

UTF-8 keeps the order of characters: the leading byte of a longer form is greater, and forms of one
length carry the bits of the code point from the greatest one on. So texts are in the order of their
bytes (`utf8_lt_utf8_iff`).
-/

namespace GatedResolver.Text

/-- The leading byte of a character tells how long its form is. -/
theorem utf8EncodeChar_lead (character : Char) :
    ∃ lead others, String.utf8EncodeChar character = lead :: others ∧
      (character.toNat < 0x80 ↔ lead.toNat < 0x80) ∧
      (character.toNat < 0x800 ↔ lead.toNat < 0xE0) ∧
      (character.toNat < 0x10000 ↔ lead.toNat < 0xF0) := by
  rcases utf8EncodeChar_cases character with
    ⟨small, form⟩ | ⟨least, small, form⟩ | ⟨least, small, -, form⟩ | ⟨least, small, form⟩
  all_goals
    refine ⟨_, _, form, ?_⟩
    rw [toNat_ofNat_of_lt (by omega)]
    omega

/-- Byte strings with a smaller byte in front are smaller. -/
theorem cons_lt_cons_of_toNat_lt {first second : UInt8} (less : first.toNat < second.toNat)
    (left right : Bytes) : first :: left < second :: right :=
  List.cons_lt_cons_iff.mpr (.inl (UInt8.lt_iff_toNat_lt.mpr less))

/-- Numbers below a limit are written in such a way that smaller ones have smaller bytes, whatever
follows. -/
def WritesInOrder (write : Nat → Bytes) (limit : Nat) : Prop :=
  ∀ first second, first < second → second < limit →
    ∀ left right, write first ++ left < write second ++ right

/-- Numbers that are added to the mark of a leading byte are written in order. -/
theorem writesInOrder_lead (mark limit : Nat) (fits : mark + limit ≤ 256) :
    WritesInOrder (fun number => [UInt8.ofNat (mark + number)]) limit := by
  intro first second less below left right
  refine cons_lt_cons_of_toNat_lt ?_ left right
  rw [toNat_ofNat_of_lt (by omega), toNat_ofNat_of_lt (by omega)]
  omega

/-- Numbers are written in order if a byte with their lowest six bits continues what is written of
the others in order. -/
theorem WritesInOrder.continued {write : Nat → Bytes} {limit : Nat}
    (writes : WritesInOrder write limit) :
    WritesInOrder (fun number => write (number / 64) ++ [UInt8.ofNat (0x80 + number % 64)])
      (limit * 64) := by
  intro first second less below left right
  simp only [List.append_assoc, List.singleton_append]
  -- The higher bits decide; if they are the same, the last byte does.
  by_cases high : first / 64 < second / 64
  · exact writes _ _ high (by omega) _ _
  · have same : first / 64 = second / 64 := by omega
    rw [same]
    refine List.append_left_lt (cons_lt_cons_of_toNat_lt ?_ left right)
    rw [toNat_ofNat_of_lt (by omega), toNat_ofNat_of_lt (by omega)]
    omega

/-- The form of a smaller character is smaller, whatever follows. -/
theorem utf8EncodeChar_lt {first second : Char} (less : first < second) (left right : Bytes) :
    String.utf8EncodeChar first ++ left < String.utf8EncodeChar second ++ right := by
  have points : first.toNat < second.toNat := less
  obtain ⟨firstLead, firstOthers, firstForm, firstOne, firstTwo, firstThree⟩ :=
    utf8EncodeChar_lead first
  obtain ⟨secondLead, secondOthers, secondForm, secondOne, secondTwo, secondThree⟩ :=
    utf8EncodeChar_lead second
  by_cases longer : firstLead.toNat < secondLead.toNat
  · rw [firstForm, secondForm]
    exact cons_lt_cons_of_toNat_lt longer _ _
  · -- No leading byte is greater, so the forms have one length.
    have one : first.toNat < 0x80 ↔ second.toNat < 0x80 := by omega
    have two : first.toNat < 0x800 ↔ second.toNat < 0x800 := by omega
    have three : first.toNat < 0x10000 ↔ second.toNat < 0x10000 := by omega
    rcases utf8EncodeChar_cases first with
      ⟨small, form⟩ | ⟨least, small, form⟩ | ⟨least, small, -, form⟩ | ⟨least, small, form⟩ <;>
    rcases utf8EncodeChar_cases second with
      ⟨most, other⟩ | ⟨beyond, most, other⟩ | ⟨beyond, most, -, other⟩ | ⟨beyond, most, other⟩ <;>
    try omega
    all_goals rw [form, other]
    · have order := writesInOrder_lead 0 0x80 (by decide)
      simpa using order _ _ points (by omega) left right
    · have order := (writesInOrder_lead 0xC0 0x20 (by decide)).continued
      simpa using order _ _ points (by omega) left right
    · have order := (writesInOrder_lead 0xE0 0x10 (by decide)).continued.continued
      simpa [Nat.div_div_eq_div_mul] using order _ _ points (by omega) left right
    · have order := (writesInOrder_lead 0xF0 0x10 (by decide)).continued.continued.continued
      simpa [Nat.div_div_eq_div_mul] using order _ _ points (by omega) left right

/-- A smaller text has smaller bytes. -/
theorem flatMap_utf8EncodeChar_lt {left right : List Char} (less : left < right) :
    left.flatMap String.utf8EncodeChar < right.flatMap String.utf8EncodeChar := by
  induction left generalizing right with
  | nil =>
    cases right with
    | nil => exact absurd less (List.lt_irrefl _)
    | cons character rest =>
      obtain ⟨lead, others, form, -⟩ := utf8EncodeChar_lead character
      rw [List.flatMap_nil, List.flatMap_cons, form]
      exact List.nil_lt_cons _ _
  | cons first rest inductionHypothesis =>
    cases right with
    | nil => exact absurd less (List.not_lt_nil _)
    | cons second others =>
      rw [List.flatMap_cons, List.flatMap_cons]
      rcases List.cons_lt_cons_iff.mp less with smaller | ⟨rfl, behind⟩
      · exact utf8EncodeChar_lt smaller _ _
      · exact List.append_left_lt (inductionHypothesis behind)

/-- Texts are in the order of their bytes. -/
theorem utf8_lt_utf8_iff {left right : String} : utf8 left < utf8 right ↔ left < right := by
  have mono : ∀ {smaller greater : String}, smaller < greater → utf8 smaller < utf8 greater :=
    fun less => flatMap_utf8EncodeChar_lt (String.lt_iff_toList_lt.mp less)
  refine ⟨fun less => ?_, mono⟩
  rcases lt_trichotomy left right with smaller | rfl | greater
  · exact smaller
  · exact absurd less (List.lt_irrefl _)
  · exact absurd less (List.lt_asymm (mono greater))

end GatedResolver.Text
