import Mathlib.Data.List.Induction
import GatedResolver.Proofs.Text.Utf8
import GatedResolver.Text.Hex

/-!
# Hexadecimal texts

A text is read as a byte string exactly if it is the hexadecimal text of that byte string, the case
of its letters aside (`readHex?_eq_some_iff`). So a text with an odd number of characters, or with
a character that is no digit, is not read at all.
-/

namespace GatedResolver.Text

/-- Whether a character is one of the digits that bytes are written with. -/
def isLowerHexDigit (character : Char) : Bool :=
  character.isDigit || ('a' ≤ character && character ≤ 'f')

/-- The digit of a number below sixteen is one of those that bytes are written with. -/
theorem isLowerHexDigit_hexDigit {value : Nat} (small : value < 16) :
    isLowerHexDigit (hexDigit value) = true := by
  have all : ∀ digit : Fin 16, isLowerHexDigit (hexDigit digit) = true := by decide
  exact all ⟨value, small⟩

/-- There are two digits for each byte. -/
@[simp] theorem length_hexDigits (bytes : Bytes) : (hexDigits bytes).length = 2 * bytes.length := by
  induction bytes with
  | nil => rfl
  | cons octet rest inductionHypothesis =>
    have digits : hexDigits (octet :: rest) =
        hexDigit (octet.toNat / 16) :: hexDigit (octet.toNat % 16) :: hexDigits rest := rfl
    rw [digits, List.length_cons, List.length_cons, inductionHypothesis, List.length_cons]
    omega

/-- Every other digit is the first one of a byte. -/
theorem getElem?_hexDigits (bytes : Bytes) (place : Nat) :
    (hexDigits bytes)[2 * place]? = bytes[place]?.map fun octet => hexDigit (octet.toNat / 16) := by
  induction bytes generalizing place with
  | nil => rfl
  | cons octet rest inductionHypothesis =>
    cases place with
    | zero => rfl
    | succ place => exact inductionHypothesis place

/-- Different byte strings have different digits. -/
theorem hexDigits_injective : Function.Injective hexDigits := by
  intro left right same
  have texts : hex left = hex right := congrArg String.ofList same
  have reads := congrArg readHex? texts
  rw [readHex?_hex, readHex?_hex] at reads
  exact Option.some.inj reads

/-- Bytes are written with lower-case digits and nothing else. -/
theorem isLowerHexDigit_of_mem_hexDigits {bytes : Bytes} {character : Char}
    (member : character ∈ hexDigits bytes) : isLowerHexDigit character = true := by
  obtain ⟨octet, -, digit⟩ := List.mem_flatMap.mp member
  have bound := octet.toNat_lt
  simp only [List.mem_cons, List.not_mem_nil, or_false] at digit
  rcases digit with rfl | rfl
  · exact isLowerHexDigit_hexDigit (by omega)
  · exact isLowerHexDigit_hexDigit (by omega)

/-- A lower-case digit is ASCII, and it is the lower-case form of its capital. -/
theorem toLower_toUpper_of_isLowerHexDigit {character : Char}
    (digit : isLowerHexDigit character = true) : character.toUpper.toLower = character := by
  have ascii : character.toNat < 0x80 := by
    simp only [isLowerHexDigit, Char.isDigit, Bool.or_eq_true, Bool.and_eq_true, decide_eq_true_eq,
      UInt32.le_iff_toNat_le, ge_iff_le, Char.le_def] at digit
    rcases digit with ⟨-, most⟩ | ⟨-, most⟩
    · exact Nat.lt_of_le_of_lt most (by decide)
    · exact Nat.lt_of_le_of_lt most (by decide)
  have back : isLowerHexDigit character = true → character.toUpper.toLower = character :=
    forall_ascii (by decide +kernel) ascii
  exact back digit

/-- A hexadecimal text in capitals differs from the text in the case of its letters only. -/
theorem toLower_toUpper {text : String}
    (digits : ∀ character ∈ text.toList, isLowerHexDigit character = true) :
    text.toUpper.toLower = text := by
  change (text.map Char.toUpper).map Char.toLower = text
  rw [← String.toList_inj, String.toList_map, String.toList_map, List.map_map]
  calc text.toList.map (Char.toLower ∘ Char.toUpper)
    _ = text.toList.map id := List.map_congr_left fun character member =>
      toLower_toUpper_of_isLowerHexDigit (digits character member)
    _ = text.toList := List.map_id _

/-- An ASCII character is read as the number whose digit it is, the case of letters aside. -/
theorem hexValue?_ascii {character : Char} (ascii : character.toNat < 0x80) {value : Nat}
    (small : value < 16) :
    hexValue? (byte character) = some value ↔ character.toLower = hexDigit value := by
  have all : ∀ digit : Fin 16,
      hexValue? (byte character) = some digit.val ↔ character.toLower = hexDigit digit :=
    forall_ascii (by decide +kernel) ascii
  exact all ⟨value, small⟩

/-- A byte that is read as a number is read as one below sixteen. -/
theorem hexValue?_lt {octet : UInt8} {value : Nat} (read : hexValue? octet = some value) :
    value < 16 := by
  simp only [hexValue?, Bool.and_eq_true, decide_eq_true_eq, UInt8.le_iff_toNat_le] at read
  split at read
  · next bounds =>
    cases read
    have most : octet.toNat ≤ 0x39 := bounds.2
    omega
  · split at read
    · next bounds =>
      cases read
      have most : octet.toNat ≤ 0x66 := bounds.2
      omega
    · split at read
      · next bounds =>
        cases read
        have most : octet.toNat ≤ 0x46 := bounds.2
        omega
      · cases read

/-- A byte behind those of ASCII is no digit. -/
theorem hexValue?_eq_none {octet : UInt8} (beyond : 0x80 ≤ octet.toNat) : hexValue? octet = none := by
  have tooLow : ∀ bound : UInt8, bound.toNat < 0x80 → ¬ octet ≤ bound := by
    intro bound low atMost
    have most := UInt8.le_iff_toNat_le.mp atMost
    omega
  simp [hexValue?, tooLow 0x39 (by decide), tooLow 0x66 (by decide), tooLow 0x46 (by decide)]

/-- A character whose first byte is read as a number is that one byte, and the digit of the
number. -/
theorem digit_of_hexValue? {character : Char} {head : UInt8} {tail : Bytes} {value : Nat}
    (form : String.utf8EncodeChar character = head :: tail) (read : hexValue? head = some value) :
    tail = [] ∧ character.toLower = hexDigit value := by
  by_cases ascii : character.toNat < 0x80
  · rw [utf8EncodeChar_ascii ascii] at form
    obtain ⟨rfl, rfl⟩ := List.cons.inj form
    exact ⟨rfl, (hexValue?_ascii ascii (hexValue?_lt read)).mp read⟩
  · -- The first byte of any other character is beyond all digits.
    have beyond : 0x80 ≤ head.toNat := by
      rcases utf8EncodeChar_cases character with ⟨low, -⟩ | ⟨-, most, bytes⟩ |
        ⟨-, most, -, bytes⟩ | ⟨-, most, bytes⟩
      · exact absurd low ascii
      all_goals
        rw [bytes] at form
        rw [← (List.cons.inj form).1, toNat_ofNat_of_lt (by omega)]
        omega
    rw [hexValue?_eq_none beyond] at read
    cases read

/-- A character that is the digit of a number is one byte, and is read as that number. -/
theorem hexValue?_of_toLower {character : Char} {value : Nat} (small : value < 16)
    (digit : character.toLower = hexDigit value) :
    String.utf8EncodeChar character = [byte character] ∧ hexValue? (byte character) = some value := by
  have ascii : character.toNat < 0x80 := by
    by_contra beyond
    have kept : character.toLower = character := by
      refine dif_neg fun upper => beyond ?_
      have most : character.toNat ≤ 90 := UInt32.le_iff_toNat_le.mp upper.2
      omega
    have all : ∀ digit : Fin 16, (hexDigit digit).toNat < 0x80 := by decide
    rw [kept] at digit
    exact beyond (digit ▸ all ⟨value, small⟩)
  exact ⟨utf8EncodeChar_ascii ascii, (hexValue?_ascii ascii small).mpr digit⟩

/-- One character alone is not read. -/
theorem readHexOnto_single (character : Char) :
    readHexOnto [] (String.utf8EncodeChar character) = none := by
  cases form : String.utf8EncodeChar character with
  | nil => exact absurd form (by simp [String.utf8EncodeChar_ne_nil])
  | cons head tail =>
    cases tail with
    | nil => rfl
    | cons next rest =>
      unfold readHexOnto
      split
      · next read _ => cases (digit_of_hexValue? form read).1
      · rfl

/-- Two characters are read as a byte if they are its digits, and then the others are read. -/
theorem readHexOnto_pair (first second : Char) (others : Bytes) (bytes : Bytes) :
    readHexOnto [] (String.utf8EncodeChar first ++ (String.utf8EncodeChar second ++ others)) =
        some bytes ↔
      ∃ octet rest, bytes = octet :: rest ∧ first.toLower = hexDigit (octet.toNat / 16) ∧
        second.toLower = hexDigit (octet.toNat % 16) ∧ readHexOnto [] others = some rest := by
  constructor
  · intro read
    obtain ⟨firstHead, firstTail, firstForm⟩ :=
      List.exists_cons_of_ne_nil (String.utf8EncodeChar_ne_nil (c := first))
    obtain ⟨secondHead, secondTail, secondForm⟩ :=
      List.exists_cons_of_ne_nil (String.utf8EncodeChar_ne_nil (c := second))
    rw [firstForm, secondForm] at read
    cases high : hexValue? firstHead with
    | none =>
      cases firstTail <;> simp [readHexOnto, high] at read
    | some highValue =>
      obtain ⟨rfl, firstDigit⟩ := digit_of_hexValue? firstForm high
      cases low : hexValue? secondHead with
      | none => simp [readHexOnto, high, low] at read
      | some lowValue =>
        obtain ⟨rfl, secondDigit⟩ := digit_of_hexValue? secondForm low
        have highSmall := hexValue?_lt high
        have lowSmall := hexValue?_lt low
        have value : (UInt8.ofNat (16 * highValue + lowValue)).toNat = 16 * highValue + lowValue :=
          toNat_ofNat_of_lt (by omega)
        simp only [List.cons_append, List.nil_append, readHexOnto, high, low] at read
        rw [← List.nil_append [UInt8.ofNat _], readHexOnto_append] at read
        obtain ⟨rest, restRead, rfl⟩ := Option.map_eq_some_iff.mp read
        refine ⟨_, rest, rfl, ?_, ?_, restRead⟩
        · rw [value, firstDigit]
          congr 1
          omega
        · rw [value, secondDigit]
          congr 1
          omega
  · rintro ⟨octet, rest, rfl, firstDigit, secondDigit, read⟩
    have bound := octet.toNat_lt
    obtain ⟨firstByte, firstReads⟩ := hexValue?_of_toLower (by omega) firstDigit
    obtain ⟨secondByte, secondReads⟩ := hexValue?_of_toLower (by omega) secondDigit
    have whole : UInt8.ofNat (16 * (octet.toNat / 16) + octet.toNat % 16) = octet := by
      rw [Nat.div_add_mod]
      simp
    rw [firstByte, secondByte, List.singleton_append, List.singleton_append]
    simp only [readHexOnto, firstReads, secondReads, whole]
    rw [← List.nil_append [octet], readHexOnto_append, read]
    rfl

/-- Characters are read as the bytes that their lower-case forms are the digits of. -/
theorem readHexOnto_eq_some_iff (characters : List Char) (bytes : Bytes) :
    readHexOnto [] (characters.flatMap String.utf8EncodeChar) = some bytes ↔
      characters.map Char.toLower = hexDigits bytes := by
  induction characters using List.twoStepInduction generalizing bytes with
  | nil =>
    cases bytes with
    | nil => simp [readHexOnto, hexDigits]
    | cons octet rest => simp [readHexOnto, hexDigits]
  | singleton character =>
    have odd : [character].map Char.toLower ≠ hexDigits bytes := by
      intro same
      have lengths := congrArg List.length same
      simp only [length_hexDigits, List.length_map, List.length_singleton] at lengths
      omega
    rw [List.flatMap_singleton, readHexOnto_single]
    refine ⟨fun read => ?_, fun same => absurd same odd⟩
    cases read
  | cons_cons first second others inductionHypothesis =>
    rw [List.flatMap_cons, List.flatMap_cons, readHexOnto_pair]
    constructor
    · rintro ⟨octet, rest, rfl, firstDigit, secondDigit, read⟩
      rw [List.map_cons, List.map_cons, firstDigit, secondDigit,
        (inductionHypothesis rest).mp read]
      rfl
    · intro same
      cases bytes with
      | nil => simp [hexDigits] at same
      | cons octet rest =>
        obtain ⟨firstDigit, behind⟩ := List.cons.inj same
        obtain ⟨secondDigit, rest'⟩ := List.cons.inj behind
        exact ⟨octet, rest, rfl, firstDigit, secondDigit, (inductionHypothesis rest).mpr rest'⟩

/-- A text is read as the bytes that its lower-case form is the hexadecimal text of. -/
theorem readHex?_eq_some_iff {text : String} {bytes : Bytes} :
    readHex? text = some bytes ↔ text.toLower = hex bytes := by
  change _ ↔ text.map Char.toLower = hex bytes
  rw [readHex?, utf8, readHexOnto_eq_some_iff, hex, ← String.toList_inj, String.toList_map,
    String.toList_ofList]

end GatedResolver.Text
