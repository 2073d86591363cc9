import GatedResolver.Text.Utf8

/-!
# UTF-8 read back

The UTF-8 form of a character is read as that character whatever follows it, so the bytes of a
text are read as that text.
-/

namespace GatedResolver.Text

/-- Comparisons of bytes with small numbers are comparisons of numbers. -/
theorem toNat_ofNat_of_lt {value : Nat} (small : value < 256) :
    (UInt8.ofNat value).toNat = value := by
  simp only [UInt8.toNat_ofNat', Nat.reducePow]
  omega

/-- What holds of the byte of every number holds of every byte. -/
@[elab_as_elim] theorem forall_octet {holds : UInt8 → Prop}
    (all : ∀ value : Fin 256, holds (UInt8.ofNat value)) (octet : UInt8) : holds octet := by
  have here := all ⟨octet.toNat, octet.toNat_lt⟩
  rwa [UInt8.ofNat_toNat] at here

/-- What holds of the character of every ASCII code holds of every ASCII character. -/
@[elab_as_elim] theorem forall_ascii {holds : Char → Prop}
    (all : ∀ code : Fin 128, holds (Char.ofNat code)) {character : Char}
    (ascii : character.toNat < 0x80) : holds character := by
  have here := all ⟨character.toNat, ascii⟩
  rwa [Char.ofNat_toNat] at here

/-- The UTF-8 form of a character by the size of its code point. -/
theorem utf8EncodeChar_cases (character : Char) :
    (character.toNat < 0x80 ∧
      String.utf8EncodeChar character = [UInt8.ofNat character.toNat]) ∨
    (0x80 ≤ character.toNat ∧ character.toNat < 0x800 ∧
      String.utf8EncodeChar character =
        [UInt8.ofNat (0xC0 + character.toNat / 64), UInt8.ofNat (0x80 + character.toNat % 64)]) ∨
    (0x800 ≤ character.toNat ∧ character.toNat < 0x10000 ∧
      (character.toNat < 0xD800 ∨ 0xDFFF < character.toNat) ∧
      String.utf8EncodeChar character =
        [UInt8.ofNat (0xE0 + character.toNat / 4096),
          UInt8.ofNat (0x80 + character.toNat / 64 % 64),
          UInt8.ofNat (0x80 + character.toNat % 64)]) ∨
    (0x10000 ≤ character.toNat ∧ character.toNat < 0x110000 ∧
      String.utf8EncodeChar character =
        [UInt8.ofNat (0xF0 + character.toNat / 262144),
          UInt8.ofNat (0x80 + character.toNat / 4096 % 64),
          UInt8.ofNat (0x80 + character.toNat / 64 % 64),
          UInt8.ofNat (0x80 + character.toNat % 64)]) := by
  have valid := character.valid
  have point : character.val.toNat = character.toNat := rfl
  simp only [UInt32.isValidChar, Nat.isValidChar, point] at valid
  simp only [String.utf8EncodeChar, point]
  by_cases one : character.toNat ≤ 0x7f
  · exact .inl ⟨by omega, if_pos one⟩
  · rw [if_neg one]
    by_cases two : character.toNat ≤ 0x7ff
    · have lead : character.toNat / 64 % 32 + 0xC0 = 0xC0 + character.toNat / 64 := by omega
      rw [if_pos two, lead, Nat.add_comm (character.toNat % 64)]
      exact .inr (.inl ⟨by omega, by omega, rfl⟩)
    · rw [if_neg two]
      by_cases three : character.toNat ≤ 0xffff
      · have lead : character.toNat / 4096 % 16 + 0xE0 = 0xE0 + character.toNat / 4096 := by omega
        rw [if_pos three, lead, Nat.add_comm (character.toNat / 64 % 64),
          Nat.add_comm (character.toNat % 64)]
        exact .inr (.inr (.inl ⟨by omega, by omega, by omega, rfl⟩))
      · have lead : character.toNat / 262144 % 8 + 0xF0 = 0xF0 + character.toNat / 262144 := by
          omega
        rw [if_neg three, lead, Nat.add_comm (character.toNat / 4096 % 64),
          Nat.add_comm (character.toNat / 64 % 64), Nat.add_comm (character.toNat % 64)]
        exact .inr (.inr (.inr ⟨by omega, by omega, rfl⟩))

/-- The character of an ASCII code has that code. -/
theorem toNat_charOfNat {value : Nat} (ascii : value < 0x80) : (Char.ofNat value).toNat = value := by
  have valid : value.isValidChar := .inl (by omega)
  rw [Char.ofNat, dif_pos valid]
  rfl

/-- An ASCII character is one byte of UTF-8. -/
theorem utf8EncodeChar_ascii {character : Char} (ascii : character.toNat < 0x80) :
    String.utf8EncodeChar character = [byte character] := by
  rcases utf8EncodeChar_cases character with ⟨-, form⟩ | ⟨least, -⟩ | ⟨least, -⟩ | ⟨least, -⟩
  · exact form
  all_goals omega

/-- The bytes of ASCII characters are one for each. -/
theorem utf8_ofList_ascii {characters : List Char}
    (ascii : ∀ character ∈ characters, character.toNat < 0x80) :
    utf8 (String.ofList characters) = characters.map byte := by
  rw [utf8, String.toList_ofList]
  induction characters with
  | nil => rfl
  | cons character rest inductionHypothesis =>
    rw [List.flatMap_cons, utf8EncodeChar_ascii (ascii character List.mem_cons_self),
      inductionHypothesis fun other member => ascii other (List.mem_cons_of_mem _ member)]
    rfl

/-- The bytes of two texts in a row are those of the one and then those of the other. -/
@[simp] theorem utf8_append (left right : String) : utf8 (left ++ right) = utf8 left ++ utf8 right := by
  simp [utf8, String.toList_append]

/-- A list gets no shorter when something is put in the place of each item. -/
theorem length_le_flatMap {α β : Type} {spread : α → List β}
    (nonempty : ∀ item, 0 < (spread item).length) (items : List α) :
    items.length ≤ (items.flatMap spread).length := by
  induction items with
  | nil => exact Nat.le_refl 0
  | cons item rest inductionHypothesis =>
    have first := nonempty item
    rw [List.flatMap_cons, List.length_append, List.length_cons]
    omega

/-- The size of a text is the number of its bytes. -/
theorem length_utf8 (text : String) : (utf8 text).length = text.utf8ByteSize := by
  have bytes : text.toList.utf8Encode = text.toByteArray := String.utf8Encode_toList
  rw [← String.size_toByteArray, ← bytes, List.utf8Encode]
  simp [utf8, ByteArray.size]

/-- A text has no more characters than bytes. -/
theorem length_toList_le (text : String) : text.toList.length ≤ text.utf8ByteSize := by
  rw [← length_utf8]
  refine length_le_flatMap (fun character => ?_) text.toList
  rw [String.length_utf8EncodeChar]
  exact Char.utf8Size_pos character

/-- The code point of a character is that character. -/
theorem some_ofNat_eq {point : Nat} {character : Char} (same : point = character.toNat) :
    some (Char.ofNat point) = some character := by
  rw [same, Char.ofNat_toNat]

section Steps

variable (found : List (Option Char)) {lead second third fourth : UInt8} (rest : Bytes)

/-- A byte below 128 is a character. -/
theorem scanUtf8_one (one : lead < 0x80) :
    scanUtf8 found (lead :: rest) = scanUtf8 (some (Char.ofNat lead.toNat) :: found) rest := by
  conv => lhs; unfold scanUtf8
  rw [if_pos one]

/-- A leading byte with one byte that it admits is a character. -/
theorem scanUtf8_two (leads : 0xC2 ≤ lead) (two : lead < 0xE0)
    (admits : admitsSecond lead second = true) :
    scanUtf8 found (lead :: second :: rest) =
      scanUtf8 (some (Char.ofNat (lead.toNat % 32 * 64 + payloadBits second)) :: found) rest := by
  conv => lhs; unfold scanUtf8
  have notOne : ¬ lead < 0x80 := UInt8.not_lt.mpr (UInt8.le_trans (by decide) leads)
  have notHigh : ¬ 0xF4 < lead :=
    UInt8.not_lt.mpr (UInt8.le_of_lt (UInt8.lt_trans two (by decide)))
  simp [notOne, UInt8.not_lt.mpr leads, notHigh, admits, two]

/-- A leading byte with two bytes behind it is a character. -/
theorem scanUtf8_three (leads : 0xE0 ≤ lead) (three : lead < 0xF0)
    (admits : admitsSecond lead second = true) (continues : isContinuation third = true) :
    scanUtf8 found (lead :: second :: third :: rest) =
      scanUtf8 (some (Char.ofNat (lead.toNat % 16 * 4096 + payloadBits second * 64 +
        payloadBits third)) :: found) rest := by
  conv => lhs; unfold scanUtf8
  have notOne : ¬ lead < 0x80 := UInt8.not_lt.mpr (UInt8.le_trans (by decide) leads)
  have notLow : ¬ lead < 0xC2 := UInt8.not_lt.mpr (UInt8.le_trans (by decide) leads)
  have notHigh : ¬ 0xF4 < lead :=
    UInt8.not_lt.mpr (UInt8.le_of_lt (UInt8.lt_trans three (by decide)))
  simp [notOne, notLow, notHigh, admits, UInt8.not_lt.mpr leads, continues, three]

/-- A leading byte with three bytes behind it is a character. -/
theorem scanUtf8_four (leads : 0xF0 ≤ lead) (four : lead ≤ 0xF4)
    (admits : admitsSecond lead second = true) (continues : isContinuation third = true)
    (ends : isContinuation fourth = true) :
    scanUtf8 found (lead :: second :: third :: fourth :: rest) =
      scanUtf8 (some (Char.ofNat (lead.toNat % 8 * 262144 + payloadBits second * 4096 +
        payloadBits third * 64 + payloadBits fourth)) :: found) rest := by
  conv => lhs; unfold scanUtf8
  have notOne : ¬ lead < 0x80 := UInt8.not_lt.mpr (UInt8.le_trans (by decide) leads)
  have notLow : ¬ lead < 0xC2 := UInt8.not_lt.mpr (UInt8.le_trans (by decide) leads)
  have notTwo : ¬ lead < 0xE0 := UInt8.not_lt.mpr (UInt8.le_trans (by decide) leads)
  simp [notOne, notLow, UInt8.not_lt.mpr four, admits, notTwo, continues, UInt8.not_lt.mpr leads,
    ends]

end Steps

/-- A byte above 127 that is the last one of a character continues it. -/
theorem isContinuation_ofNat (bits : Nat) :
    isContinuation (UInt8.ofNat (0x80 + bits % 64)) = true := by
  have value := toNat_ofNat_of_lt (by omega : 0x80 + bits % 64 < 256)
  simp only [isContinuation, UInt8.le_iff_toNat_le, value, UInt8.reduceToNat, Bool.and_eq_true,
    decide_eq_true_eq]
  omega

/-- The payload of a byte that continues a character. -/
theorem payloadBits_ofNat (bits : Nat) :
    payloadBits (UInt8.ofNat (0x80 + bits % 64)) = bits % 64 := by
  rw [payloadBits, toNat_ofNat_of_lt (by omega)]
  omega

/-- Which second bytes a leading byte admits, in numbers. -/
theorem admitsSecond_ofNat {lead bits : Nat} (small : lead < 256)
    (noOverlong : lead = 0xE0 → 0x20 ≤ bits % 64) (noSurrogate : lead = 0xED → bits % 64 < 0x20)
    (noOverlongFour : lead = 0xF0 → 0x10 ≤ bits % 64) (noExcess : lead = 0xF4 → bits % 64 < 0x10) :
    admitsSecond (UInt8.ofNat lead) (UInt8.ofNat (0x80 + bits % 64)) = true := by
  have second := toNat_ofNat_of_lt (by omega : 0x80 + bits % 64 < 256)
  have equals : ∀ value : UInt8, (UInt8.ofNat lead == value) = decide (lead = value.toNat) := by
    intro value
    rw [Bool.eq_iff_iff, beq_iff_eq, decide_eq_true_eq, ← UInt8.toNat_inj,
      toNat_ofNat_of_lt small]
  simp only [admitsSecond, equals, UInt8.le_iff_toNat_le, second, Bool.and_eq_true,
    decide_eq_true_eq, UInt8.reduceToNat]
  constructor
  · split
    · next overlong =>
      have enough := noOverlong overlong
      simp only [UInt8.reduceToNat]
      omega
    · split
      · next overlong =>
        have enough := noOverlongFour overlong
        simp only [UInt8.reduceToNat]
        omega
      · simp only [UInt8.reduceToNat]
        omega
  · split
    · next surrogate =>
      have enough := noSurrogate surrogate
      simp only [UInt8.reduceToNat]
      omega
    · split
      · next excess =>
        have enough := noExcess excess
        simp only [UInt8.reduceToNat]
        omega
      · simp only [UInt8.reduceToNat]
        omega

/-- A character in its UTF-8 form is found first. -/
theorem scanUtf8_char (found : List (Option Char)) (character : Char) (rest : Bytes) :
    scanUtf8 found (String.utf8EncodeChar character ++ rest) =
      scanUtf8 (some character :: found) rest := by
  rcases utf8EncodeChar_cases character with
    ⟨small, form⟩ | ⟨least, small, form⟩ | ⟨least, small, valid, form⟩ | ⟨least, small, form⟩
  · have lead := toNat_ofNat_of_lt (by omega : character.toNat < 256)
    rw [form, List.singleton_append, scanUtf8_one, lead, Char.ofNat_toNat]
    rw [UInt8.lt_iff_toNat_lt, lead]
    exact small
  · have lead := toNat_ofNat_of_lt (by omega : 0xC0 + character.toNat / 64 < 256)
    rw [form, List.cons_append, List.singleton_append, scanUtf8_two]
    · rw [some_ofNat_eq]
      rw [lead, payloadBits_ofNat]
      omega
    · rw [UInt8.le_iff_toNat_le, lead]
      simp only [UInt8.reduceToNat]
      omega
    · rw [UInt8.lt_iff_toNat_lt, lead]
      simp only [UInt8.reduceToNat]
      omega
    · apply admitsSecond_ofNat <;> omega
  · have lead := toNat_ofNat_of_lt (by omega : 0xE0 + character.toNat / 4096 < 256)
    rw [form, List.cons_append, List.cons_append, List.singleton_append, scanUtf8_three]
    · rw [some_ofNat_eq]
      rw [lead, payloadBits_ofNat, payloadBits_ofNat]
      omega
    · rw [UInt8.le_iff_toNat_le, lead]
      simp only [UInt8.reduceToNat]
      omega
    · rw [UInt8.lt_iff_toNat_lt, lead]
      simp only [UInt8.reduceToNat]
      omega
    · apply admitsSecond_ofNat <;> omega
    · exact isContinuation_ofNat _
  · have lead := toNat_ofNat_of_lt (by omega : 0xF0 + character.toNat / 262144 < 256)
    rw [form, List.cons_append, List.cons_append, List.cons_append, List.singleton_append,
      scanUtf8_four]
    · rw [some_ofNat_eq]
      rw [lead, payloadBits_ofNat, payloadBits_ofNat, payloadBits_ofNat]
      omega
    · rw [UInt8.le_iff_toNat_le, lead]
      simp only [UInt8.reduceToNat]
      omega
    · rw [UInt8.le_iff_toNat_le, lead]
      simp only [UInt8.reduceToNat]
      omega
    · apply admitsSecond_ofNat <;> omega
    · exact isContinuation_ofNat _
    · exact isContinuation_ofNat _

/-- The bytes of a text show its characters and no damage. -/
theorem scanUtf8_utf8 (found : List (Option Char)) (characters : List Char) :
    scanUtf8 found (characters.flatMap String.utf8EncodeChar) =
      found.reverse ++ characters.map some := by
  induction characters generalizing found with
  | nil => simp [scanUtf8]
  | cons character rest inductionHypothesis =>
    rw [List.flatMap_cons, scanUtf8_char, inductionHypothesis]
    simp

/-- The bytes of a text are read as that text. -/
@[simp] theorem decodeUtf8?_utf8 (text : String) : decodeUtf8? (utf8 text) = some text := by
  simp [decodeUtf8?, utf8, scanUtf8_utf8]

/-- The bytes of a text are read as that text when damage would be passed over, too. -/
@[simp] theorem decodeUtf8Lossy_utf8 (text : String) : decodeUtf8Lossy (utf8 text) = text := by
  simp [decodeUtf8Lossy, utf8, scanUtf8_utf8, Function.comp_def]

end GatedResolver.Text
