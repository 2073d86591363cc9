import Mathlib.Data.List.DropRight
import GatedResolver.Text.Blank

/-!
# Trimming

A text is what trimming leaves of it, with nothing but blanks around, and what is left has no blank
at either end. The two facts determine the result (`trim_eq_iff`); blanks inside stay where they
are.
-/

namespace GatedResolver.Text

variable {characters front word back : List Char}

/-- A list of characters without a blank at either of its ends. -/
structure IsTrimmed (word : List Char) : Prop where
  first : ∀ character ∈ word.head?, isBlank character = false
  last : ∀ character ∈ word.getLast?, isBlank character = false

/-- A list without blanks is trimmed. -/
theorem IsTrimmed.of_solid (solid : ∀ character ∈ word, isBlank character = false) :
    IsTrimmed word where
  first character head := solid character (List.mem_of_mem_head? head)
  last character last := solid character (List.mem_of_mem_getLast? last)

/-- Blanks in front of a list are dropped, up to the first character that is none. -/
theorem dropWhile_isBlank_append (blank : front.all isBlank = true)
    (solid : ∀ character ∈ word.head?, isBlank character = false) :
    (front ++ word).dropWhile isBlank = word := by
  rw [List.dropWhile_append_of_pos (List.all_eq_true.mp blank)]
  cases word with
  | nil => rfl
  | cons first others => exact List.dropWhile_cons_of_neg (by simp [solid first rfl])

/-- The first character that is not dropped is no blank. -/
theorem solid_of_head?_dropWhile {character : Char}
    (head : character ∈ (characters.dropWhile isBlank).head?) : isBlank character = false := by
  have stopped := List.head?_dropWhile_not isBlank characters
  rw [Option.mem_def.mp head] at stopped
  exact stopped

/-- Trimming takes away the blanks around a trimmed list. -/
theorem trimList_append (blankFront : front.all isBlank = true)
    (blankBack : back.all isBlank = true) (trimmed : IsTrimmed word) :
    trimList (front ++ word ++ back) = word := by
  cases word with
  | nil =>
    have blank : (front ++ back).all isBlank = true := by simp [blankFront, blankBack]
    rw [List.append_nil, trimList, List.dropWhile_eq_nil_iff.mpr (List.all_eq_true.mp blank)]
    rfl
  | cons head tail =>
    have first : ∀ character ∈ (head :: tail ++ back).head?, isBlank character = false :=
      trimmed.first
    have last : ∀ character ∈ (head :: tail).reverse.head?, isBlank character = false := by
      rw [List.head?_reverse]
      exact trimmed.last
    rw [trimList, List.append_assoc, dropWhile_isBlank_append blankFront first,
      List.reverse_append, dropWhile_isBlank_append (by simpa using blankBack) last,
      List.reverse_reverse]

/-- A list is what trimming leaves of it, with blanks around. -/
theorem exists_eq_trimList (characters : List Char) :
    ∃ front back, front.all isBlank = true ∧ back.all isBlank = true ∧
      characters = front ++ trimList characters ++ back := by
  refine ⟨characters.takeWhile isBlank,
    ((characters.dropWhile isBlank).reverse.takeWhile isBlank).reverse, List.all_takeWhile, ?_, ?_⟩
  · rw [List.all_reverse]
    exact List.all_takeWhile
  · rw [trimList, List.append_assoc, ← List.reverse_append, List.takeWhile_append_dropWhile,
      List.reverse_reverse, List.takeWhile_append_dropWhile]

/-- What trimming leaves is trimmed. -/
theorem isTrimmed_trimList (characters : List Char) : IsTrimmed (trimList characters) where
  first := by
    intro character head
    -- the blanks behind are dropped last, so what is left begins where the blanks in front ended
    obtain ⟨behind, whole⟩ : trimList characters <+: characters.dropWhile isBlank :=
      List.rdropWhile_prefix isBlank _
    have dropped : character ∈ (characters.dropWhile isBlank).head? := by
      rw [← whole]
      exact List.mem_head?_append_of_mem_head? head
    exact solid_of_head?_dropWhile dropped
  last := by
    intro character last
    rw [trimList, List.getLast?_reverse] at last
    exact solid_of_head?_dropWhile last

/-- Trimming takes away the blanks around a trimmed text. -/
theorem trim_append {front word back : String} (blankFront : isBlankText front = true)
    (blankBack : isBlankText back = true) (trimmed : IsTrimmed word.toList) :
    trim (front ++ word ++ back) = word := by
  rw [trim, String.toList_append, String.toList_append,
    trimList_append blankFront blankBack trimmed, String.ofList_toList]

/-- A text is what trimming leaves of it, with blanks around. -/
theorem exists_eq_trim (text : String) :
    ∃ front back, isBlankText front = true ∧ isBlankText back = true ∧
      text = front ++ trim text ++ back := by
  obtain ⟨front, back, blankFront, blankBack, whole⟩ := exists_eq_trimList text.toList
  refine ⟨String.ofList front, String.ofList back, ?_, ?_, ?_⟩
  · rwa [isBlankText, String.toList_ofList]
  · rwa [isBlankText, String.toList_ofList]
  · rw [trim, ← String.ofList_append, ← String.ofList_append, ← whole, String.ofList_toList]

/-- Trimming leaves the one trimmed text that has nothing but blanks around it. -/
theorem trim_eq_iff {text word : String} :
    trim text = word ↔
      IsTrimmed word.toList ∧ ∃ front back, isBlankText front = true ∧ isBlankText back = true ∧
        text = front ++ word ++ back := by
  constructor
  · rintro rfl
    refine ⟨?_, exists_eq_trim text⟩
    rw [trim, String.toList_ofList]
    exact isTrimmed_trimList text.toList
  · rintro ⟨trimmed, front, back, blankFront, blankBack, rfl⟩
    exact trim_append blankFront blankBack trimmed

/-- Trimming leaves nothing of blanks, and of nothing else. -/
theorem trim_eq_empty_iff {text : String} : trim text = "" ↔ isBlankText text = true := by
  rw [trim_eq_iff]
  constructor
  · rintro ⟨-, front, back, blankFront, blankBack, rfl⟩
    simp only [isBlankText, String.toList_append, List.all_append] at blankFront blankBack ⊢
    rw [blankFront, blankBack]
    rfl
  · intro blank
    exact ⟨.of_solid (by simp), text, "", blank, rfl, by simp⟩

end GatedResolver.Text
