import GatedResolver.Proofs.Json.Grammar

/-!
# Texts that follow the grammar

A text may follow the grammar of documents and still spell no value: there is no number for a
numeral that is too large, and no character for half of a surrogate pair. `Form.IsSpelled` says
which texts follow the grammar, with numerals and strings left as they are written. A text that
follows it spells the value of its form if there are numbers for the numerals (`Form.InRange`) and
no half of a pair stands alone (`Form.Paired`).
-/

namespace GatedResolver.Json

open Text (byte utf8)

section Strings

/-- A piece of a string as it is written: a character for itself, a character that is escaped by a
letter, or a code of 16 bits. -/
inductive Piece where
  | plain (character : Char)
  | escaped (letter : UInt8)
  | code (unit : Nat)

/-- A text that spells a piece. Quotes, backslashes and control characters have to be escaped. -/
def Piece.IsSpelled : Piece → Bytes → Prop
  | .plain character, text => 0x20 ≤ character.toNat ∧ character.toNat ≠ 0x22 ∧
    character.toNat ≠ 0x5C ∧ text = String.utf8EncodeChar character
  | .escaped letter, text => (escaped? letter).isSome = true ∧ text = [0x5C, letter]
  | .code unit, text => ∃ first second third fourth,
    hexWord? first second third fourth = some unit ∧
      text = [0x5C, 0x75, first, second, third, fourth]

/-- A text that spells pieces in a row. -/
def AreSpelledPieces : List Piece → Bytes → Prop
  | [], text => text = []
  | piece :: rest, text => ∃ own others, piece.IsSpelled own ∧ AreSpelledPieces rest others ∧
    text = own ++ others

/-- A text that spells pieces between quotes. -/
def AreQuotedPieces (pieces : List Piece) (text : Bytes) : Prop :=
  ∃ body, AreSpelledPieces pieces body ∧ text = 0x22 :: (body ++ [0x22])

/-- The characters that pieces stand for. The two halves of a surrogate pair stand for one. -/
def characters : List Piece → List Char
  | [] => []
  | .plain character :: rest => character :: characters rest
  | .escaped letter :: rest => Char.ofNat ((escaped? letter).getD 0).toNat :: characters rest
  | .code high :: .code low :: rest =>
    if isHighSurrogate high then Char.ofNat (pairedPoint high low) :: characters rest
    else Char.ofNat high :: characters (.code low :: rest)
  | .code unit :: rest => Char.ofNat unit :: characters rest

/-- The text that pieces stand for. -/
def textOf (pieces : List Piece) : String :=
  String.ofList (characters pieces)

/-- No half of a surrogate pair stands alone: behind each first half there is a second one, and no
second one stands elsewhere. -/
def Paired : List Piece → Prop
  | [] => True
  | .code high :: .code low :: rest =>
    if isHighSurrogate high then isLowSurrogate low = true ∧ Paired rest
    else isLowSurrogate high = false ∧ Paired (.code low :: rest)
  | .code unit :: rest =>
    isHighSurrogate unit = false ∧ isLowSurrogate unit = false ∧ Paired rest
  | _ :: rest => Paired rest

/-- Bytes that are not escaped stand for themselves. -/
theorem SpellsContent.plains {own text content : Bytes}
    (unescaped : ∀ octet ∈ own, octet ≠ 0x22 ∧ octet ≠ 0x5C ∧ ¬ octet < 0x20)
    (behind : SpellsContent text content) : SpellsContent (own ++ text) (own ++ content) := by
  induction own with
  | nil => exact behind
  | cons octet rest inductionHypothesis =>
    obtain ⟨⟨noQuote, noBackslash, noControl⟩, others⟩ := List.forall_mem_cons.mp unescaped
    exact .plain noQuote noBackslash noControl (inductionHypothesis others)

/-- The letters of escapes stand for ASCII characters. -/
theorem utf8EncodeChar_escaped {letter octet : UInt8} (stands : escaped? letter = some octet) :
    String.utf8EncodeChar (Char.ofNat octet.toNat) = [octet] := by
  have ascii : ∀ letter, ∀ octet ∈ escaped? letter, octet < 0x80 :=
    Text.forall_octet (by decide +kernel)
  exact Text.utf8EncodeChar_one (ascii letter octet stands)

/-- A character that need not be escaped has no byte that would have to be. -/
theorem unescaped_utf8EncodeChar {character : Char} (noControl : 0x20 ≤ character.toNat)
    (noQuote : character.toNat ≠ 0x22) (noBackslash : character.toNat ≠ 0x5C) :
    ∀ octet ∈ String.utf8EncodeChar character,
      octet ≠ 0x22 ∧ octet ≠ 0x5C ∧ ¬ octet < 0x20 := by
  have byNumber (value : Nat) (small : value < 256) (visible : 0x20 ≤ value)
      (other : value ≠ 0x22 ∧ value ≠ 0x5C) : UInt8.ofNat value ≠ 0x22 ∧
        UInt8.ofNat value ≠ 0x5C ∧ ¬ UInt8.ofNat value < 0x20 := by
    have same := Text.toNat_ofNat_of_lt small
    simp only [ne_eq, ← UInt8.toNat_inj, UInt8.lt_iff_toNat_lt, same]
    exact ⟨other.1, other.2, Nat.not_lt.mpr visible⟩
  rcases Text.utf8EncodeChar_cases character with
    ⟨ascii, form⟩ | ⟨-, high, form⟩ | ⟨-, high, -, form⟩ | ⟨-, high, form⟩ <;>
    simp only [form, List.forall_mem_cons, List.not_mem_nil, false_implies, implies_true, and_true]
  · exact byNumber _ (by omega) noControl ⟨noQuote, noBackslash⟩
  · exact ⟨byNumber _ (by omega) (by omega) (by omega), byNumber _ (by omega) (by omega) (by omega)⟩
  · exact ⟨byNumber _ (by omega) (by omega) (by omega), byNumber _ (by omega) (by omega) (by omega),
      byNumber _ (by omega) (by omega) (by omega)⟩
  · exact ⟨byNumber _ (by omega) (by omega) (by omega), byNumber _ (by omega) (by omega) (by omega),
      byNumber _ (by omega) (by omega) (by omega), byNumber _ (by omega) (by omega) (by omega)⟩

/-- Pieces in which no half of a pair stands alone spell the characters that they stand for. -/
theorem AreSpelledPieces.spellsContent {pieces : List Piece} {text : Bytes}
    (spelled : AreSpelledPieces pieces text) (paired : Paired pieces) :
    SpellsContent text (utf8 (textOf pieces)) := by
  rw [utf8, textOf, String.toList_ofList]
  fun_induction characters pieces generalizing text with
  | case1 =>
    obtain rfl : text = [] := spelled
    exact .done
  | case2 character rest inductionHypothesis =>
    obtain ⟨_, others, ⟨noControl, noQuote, noBackslash, rfl⟩, behind, rfl⟩ := spelled
    rw [List.flatMap_cons]
    exact (inductionHypothesis behind paired).plains
      (unescaped_utf8EncodeChar noControl noQuote noBackslash)
  | case3 letter rest inductionHypothesis =>
    obtain ⟨_, others, ⟨known, rfl⟩, behind, rfl⟩ := spelled
    obtain ⟨octet, stands⟩ := Option.isSome_iff_exists.mp known
    rw [List.flatMap_cons, stands, Option.getD_some, utf8EncodeChar_escaped stands]
    exact .letter stands (inductionHypothesis behind paired)
  | case4 high low rest isHigh inductionHypothesis =>
    obtain ⟨_, _, ⟨_, _, _, _, highDigits, rfl⟩, ⟨_, others, ⟨_, _, _, _, lowDigits, rfl⟩, behind,
      rfl⟩, rfl⟩ := spelled
    rw [Paired, if_pos isHigh] at paired
    rw [List.flatMap_cons]
    exact .pair highDigits lowDigits isHigh paired.1 (inductionHypothesis behind paired.2)
  | case5 high low rest notHigh inductionHypothesis =>
    obtain ⟨_, others, ⟨_, _, _, _, digits, rfl⟩, behind, rfl⟩ := spelled
    rw [Paired, if_neg notHigh] at paired
    rw [List.flatMap_cons]
    exact .code digits (Bool.not_eq_true _ ▸ notHigh) paired.1 (inductionHypothesis behind paired.2)
  | case6 unit rest alone inductionHypothesis =>
    obtain ⟨_, others, ⟨_, _, _, _, digits, rfl⟩, behind, rfl⟩ := spelled
    have single : isHighSurrogate unit = false ∧ isLowSurrogate unit = false ∧ Paired rest := by
      rcases rest with _ | ⟨_ | _ | low, rest⟩
      · exact paired
      · exact paired
      · exact paired
      · exact absurd rfl (alone low rest)
    rw [List.flatMap_cons]
    exact .code digits single.1 single.2.1 (inductionHypothesis behind single.2.2)

end Strings

section Grammar

/-- A value as it is written, with its numerals and the pieces of its strings. -/
inductive Form where
  | null
  | boolean (value : Bool)
  | number (numeral : Numeral)
  | string (pieces : List Piece)
  | array (items : List Form)
  | object (members : List (List Piece × Form))

mutual
/-- A text that follows the grammar in a form. -/
def Form.IsSpelled : Form → Bytes → Prop
  | .null, text => text = utf8 "null"
  | .boolean true, text => text = utf8 "true"
  | .boolean false, text => text = utf8 "false"
  | .number numeral, text => numeral.WellFormed ∧ numeral.IsSpelled text
  | .string pieces, text => AreQuotedPieces pieces text
  | .array items, text => ∃ blank inner, IsBlank blank ∧ AreWrittenItems true items inner ∧
    text = 0x5B :: (blank ++ (inner ++ [0x5D]))
  | .object members, text => ∃ blank inner, IsBlank blank ∧ AreWrittenMembers true members inner ∧
    text = 0x7B :: (blank ++ (inner ++ [0x7D]))

/-- A text that follows the grammar with items and commas between them; `first` says that none
stands before them. -/
def AreWrittenItems (first : Bool) : List Form → Bytes → Prop
  | [], text => text = []
  | item :: rest, text => ∃ own others, Padded item.IsSpelled own ∧
    AreWrittenItems false rest others ∧ text = separator first ++ (own ++ others)

/-- A text that follows the grammar with members and commas between them; `first` says that none
stands before them. -/
def AreWrittenMembers (first : Bool) : List (List Piece × Form) → Bytes → Prop
  | [], text => text = []
  | (key, value) :: rest, text => ∃ name own others, Padded (AreQuotedPieces key) name ∧
    Padded value.IsSpelled own ∧ AreWrittenMembers false rest others ∧
    text = separator first ++ (name ++ byte ':' :: (own ++ others))
end

/-- A text that follows the grammar of documents in a form. -/
def Form.IsText (form : Form) (text : Bytes) : Prop :=
  Padded form.IsSpelled text

mutual
/-- The value of a form. A numeral without a number counts as zero. -/
def Form.value : Form → Value
  | .null => .null
  | .boolean value => .boolean value
  | .number numeral => .number (numeral.value.toOption.getD (.ofUInt16 0))
  | .string pieces => .string (textOf pieces)
  | .array items => .array (itemsOf items)
  | .object members => .object (membersOf members)

/-- The items of forms. -/
def itemsOf : List Form → List Value
  | [] => []
  | item :: rest => item.value :: itemsOf rest

/-- The members of forms. -/
def membersOf : List (List Piece × Form) → List Member
  | [] => []
  | (key, value) :: rest => (textOf key, value.value) :: membersOf rest
end

mutual
/-- All numerals of a form and all its strings, the keys among them, are of some kind. -/
def Form.All (numerals : Numeral → Prop) (strings : List Piece → Prop) : Form → Prop
  | .null => True
  | .boolean _ => True
  | .number numeral => numerals numeral
  | .string pieces => strings pieces
  | .array items => AllItems numerals strings items
  | .object members => AllMembers numerals strings members

/-- All numerals and strings of items are of some kind. -/
def AllItems (numerals : Numeral → Prop) (strings : List Piece → Prop) : List Form → Prop
  | [] => True
  | item :: rest => item.All numerals strings ∧ AllItems numerals strings rest

/-- All numerals and strings of members are of some kind. -/
def AllMembers (numerals : Numeral → Prop) (strings : List Piece → Prop) :
    List (List Piece × Form) → Prop
  | [] => True
  | (key, value) :: rest =>
    strings key ∧ value.All numerals strings ∧ AllMembers numerals strings rest
end

/-- No numeral is too large: there is a number for each. -/
def Form.InRange : Form → Prop :=
  Form.All (fun numeral => ∃ number, numeral.value = .ok number) fun _ => True

/-- No half of a surrogate pair stands alone in a string or a key. -/
def Form.Paired : Form → Prop :=
  Form.All (fun _ => True) Json.Paired

end Grammar

/-- A part may stand between white space where a narrower one does. -/
theorem Padded.imp {part wider : Bytes → Prop} (within : ∀ text, part text → wider text)
    {text : Bytes} (padded : Padded part text) : Padded wider text := by
  obtain ⟨before, own, behind, beforeBlank, spelled, behindBlank, parts⟩ := padded
  exact ⟨before, own, behind, beforeBlank, within own spelled, behindBlank, parts⟩

/-- A string between its quotes spells what its pieces stand for. -/
theorem AreQuotedPieces.spellsString {pieces : List Piece} (paired : Json.Paired pieces)
    (text : Bytes) (quoted : AreQuotedPieces pieces text) : SpellsString (textOf pieces) text := by
  obtain ⟨body, spelled, parts⟩ := quoted
  exact ⟨body, spelled.spellsContent paired, parts⟩

/-- A numeral for which there is a number spells that number. -/
theorem spellsNumber_of_inRange {numeral : Numeral} {text : Bytes}
    (inRange : ∃ number, numeral.value = .ok number) (wellFormed : numeral.WellFormed)
    (spelled : numeral.IsSpelled text) :
    SpellsNumber (numeral.value.toOption.getD (.ofUInt16 0)) text := by
  obtain ⟨number, worth⟩ := inRange
  refine ⟨numeral, wellFormed, spelled, ?_⟩
  rw [worth]
  rfl

mutual
/-- A text that follows the grammar spells the value of its form, if there are numbers for its
numerals and no half of a surrogate pair stands alone. -/
theorem Form.isSpelled_value : ∀ (form : Form), form.InRange → form.Paired → ∀ text,
    form.IsSpelled text → form.value.IsSpelled text
  | .null, _, _, _, spelled => spelled
  | .boolean true, _, _, _, spelled => spelled
  | .boolean false, _, _, _, spelled => spelled
  | .number _, inRange, _, _, ⟨wellFormed, spelled⟩ =>
    spellsNumber_of_inRange inRange wellFormed spelled
  | .string _, _, paired, text, quoted => quoted.spellsString paired text
  | .array items, inRange, paired, _, ⟨blank, inner, blanks, written, parts⟩ =>
    ⟨blank, inner, blanks, areSpelledItems_itemsOf items inRange paired true inner written, parts⟩
  | .object members, inRange, paired, _, ⟨blank, inner, blanks, written, parts⟩ =>
    ⟨blank, inner, blanks, areSpelledMembers_membersOf members inRange paired true inner written,
      parts⟩

/-- So do items. -/
theorem areSpelledItems_itemsOf : ∀ (items : List Form), (Form.array items).InRange →
    (Form.array items).Paired → ∀ first text, AreWrittenItems first items text →
    AreSpelledItems first (itemsOf items) text
  | [], _, _, _, _, written => written
  | item :: rest, ⟨itemInRange, inRange⟩, ⟨itemPaired, paired⟩, _, _,
      ⟨own, others, padded, written, parts⟩ =>
    ⟨own, others, padded.imp (item.isSpelled_value itemInRange itemPaired),
      areSpelledItems_itemsOf rest inRange paired false others written, parts⟩

/-- So do members. -/
theorem areSpelledMembers_membersOf : ∀ (members : List (List Piece × Form)),
    (Form.object members).InRange → (Form.object members).Paired → ∀ first text,
    AreWrittenMembers first members text → AreSpelledMembers first (membersOf members) text
  | [], _, _, _, _, written => written
  | (_, value) :: rest, ⟨_, valueInRange, inRange⟩, ⟨keyPaired, valuePaired, paired⟩, _, _,
      ⟨name, own, others, named, padded, written, parts⟩ =>
    ⟨name, own, others, named.imp (AreQuotedPieces.spellsString keyPaired),
      padded.imp (value.isSpelled_value valueInRange valuePaired),
      areSpelledMembers_membersOf rest inRange paired false others written, parts⟩
end

/-- A document that follows the grammar is a text of the value of its form, if there are numbers for
its numerals and no half of a surrogate pair stands alone. -/
theorem Form.IsText.value {form : Form} {text : Bytes} (isText : form.IsText text)
    (inRange : form.InRange) (paired : form.Paired) : form.value.IsText text :=
  isText.imp (form.isSpelled_value inRange paired)

end GatedResolver.Json
