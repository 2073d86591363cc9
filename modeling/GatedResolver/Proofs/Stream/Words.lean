import GatedResolver.Proofs.Text.Decoding
import GatedResolver.Proofs.Text.Trimming
import GatedResolver.Stream.Listener

/-!
# Words on the stream

Bytes on the stream have a name resolved exactly if they spell a word: they are the bytes of a text
that is this word with nothing but blanks around it (`spelledName?_eq_some_iff`). Bytes that end
within a character spell none.
-/

namespace GatedResolver

namespace Stream

open Text (isBlankText utf8)

/-- A text that is not empty and has neither a blank nor a control character in it. -/
structure IsWord (word : String) : Prop where
  present : word ≠ ""
  shown : ∀ character ∈ word.toList,
    Text.isBlank character = false ∧ Text.isControl character = false

/-- Bytes that spell a word: in UTF-8, and with nothing but blanks around it. -/
def Spells (bytes : Bytes) (word : String) : Prop :=
  IsWord word ∧ ∃ front back, isBlankText front = true ∧ isBlankText back = true ∧
    bytes = utf8 (front ++ word ++ back)

/-- A word is a name. -/
theorem IsWord.nameFault? {word : String} (isWord : IsWord word) :
    GatedResolver.nameFault? word = none := by
  have present : word.isEmpty = false := by simpa using isWord.present
  have shown : word.toList.any Text.isControl = false := by
    rw [List.any_eq_false]
    exact fun character belongs => by simp [(isWord.shown character belongs).2]
  simp [GatedResolver.nameFault?, present, shown]

/-- The name that a word is. -/
def IsWord.name {word : String} (isWord : IsWord word) : Name :=
  ⟨word, isWord.nameFault?⟩

/-- Bytes spell a word exactly if they are read as a text that is this word once it is trimmed. -/
theorem spells_iff_trim {bytes : Bytes} {word : String} :
    Spells bytes word ↔
      IsWord word ∧ ∃ text, Text.decodeUtf8? bytes = some text ∧ Text.trim text = word := by
  constructor
  · rintro ⟨isWord, front, back, blankFront, blankBack, rfl⟩
    have trimmed : Text.IsTrimmed word.toList :=
      .of_solid fun character belongs => (isWord.shown character belongs).1
    exact ⟨isWord, front ++ word ++ back, Text.decodeUtf8?_utf8 _,
      Text.trim_append blankFront blankBack trimmed⟩
  · rintro ⟨isWord, text, read, rfl⟩
    obtain ⟨front, back, blankFront, blankBack, whole⟩ := Text.exists_eq_trim text
    refine ⟨isWord, front, back, blankFront, blankBack, ?_⟩
    rw [Text.decodeUtf8?_eq_some_iff.mp read, ← whole]

/-- The characters of a name may stand in it exactly if it is a word. -/
theorem isWord_iff {name : Name} :
    IsWord name.text ↔ name.text.toList.all isNameChar = true := by
  rw [List.all_eq_true]
  constructor
  · intro isWord character belongs
    simp [isNameChar, isWord.shown character belongs]
  · intro shown
    constructor
    case present =>
      intro empty
      have fault := name.valid
      rw [empty] at fault
      cases fault
    case shown =>
      intro character belongs
      simpa [isNameChar] using shown character belongs

/-- Bytes have a name resolved exactly if they spell it. -/
theorem spelledName?_eq_some_iff {bytes : Bytes} {name : Name} :
    spelledName? bytes = some name ↔ Spells bytes name.text := by
  rw [spells_iff_trim, isWord_iff, spelledName?]
  cases Text.decodeUtf8? bytes with
  | none => simp
  | some text =>
    simp only [Option.some.injEq, exists_eq_left']
    constructor
    · intro spelled
      split at spelled
      · next shown =>
        have same := Name.ofText?_eq_some_iff.mp spelled
        exact ⟨same ▸ shown, same.symm⟩
      · cases spelled
    · rintro ⟨shown, trimmed⟩
      rw [trimmed, if_pos shown]
      exact Name.ofText?_eq_some_iff.mpr rfl

/-- Bytes that spell no word have no name resolved. -/
theorem spelledName?_eq_none {bytes : Bytes} (wordless : ∀ word, ¬ Spells bytes word) :
    spelledName? bytes = none := by
  cases spelled : spelledName? bytes with
  | none => rfl
  | some name => exact absurd (spelledName?_eq_some_iff.mp spelled) (wordless name.text)

/-- A payload whose part that is read ends within a character. -/
def EndsWithin (limit : Nat) (payload : Bytes) : Prop :=
  ∃ front character rest, payload = utf8 front ++ String.utf8EncodeChar character ++ rest ∧
    (utf8 front).length < limit ∧
    limit < (utf8 front).length + (String.utf8EncodeChar character).length

/-- What is read up to a place within a character spells no word. -/
theorem EndsWithin.wordless {limit : Nat} {payload : Bytes} (within : EndsWithin limit payload)
    (word : String) : ¬ Spells (payload.take limit) word := by
  obtain ⟨front, character, rest, rfl, before, behind⟩ := within
  rintro ⟨-, blanks, others, -, -, spelled⟩
  have read : (utf8 front ++ String.utf8EncodeChar character ++ rest).take limit =
      utf8 front ++ (String.utf8EncodeChar character).take (limit - (utf8 front).length) := by
    rw [List.append_assoc, List.take_append, List.take_of_length_le (Nat.le_of_lt before),
      List.take_append_of_le_length (by omega)]
  rw [read] at spelled
  refine Text.utf8_ne_of_cut front _ (List.take_append_drop _ _).symm ?_ ?_ spelled
  · intro nothing
    have length := congrArg List.length nothing
    rw [List.length_take, List.length_nil] at length
    omega
  · intro nothing
    have length := congrArg List.length nothing
    rw [List.length_drop, List.length_nil] at length
    omega

end Stream

end GatedResolver
