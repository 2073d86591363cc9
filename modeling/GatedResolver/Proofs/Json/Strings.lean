import GatedResolver.Json.Printer
import GatedResolver.Json.Reader
import GatedResolver.Proofs.Text.Decoding

/-!
# Strings between their quotes

`SpellsContent` says which texts may stand between the quotes of a string, and what each of them
spells. A string is read exactly if the text up to its quote spells it (`scanString_read_iff`). Every
byte of a string is written in a way that spells that byte, so the written form of a text is read as
that text, whatever characters are in it (`scanString_text`).
-/

namespace GatedResolver.Json

open Text (utf8)

section Grammar

/-- The code point of a surrogate pair. -/
def pairedPoint (high low : Nat) : Nat :=
  0x10000 + (high - 0xD800) * 1024 + (low - 0xDC00)

/-- What may stand between the quotes of a string, and the bytes that it stands for: bytes other
than quotes, backslashes and control characters stand for themselves, the others are escaped by a
letter or by a code. A code beyond 16 bits is written in two halves. -/
inductive SpellsContent : Bytes → Bytes → Prop
  | done : SpellsContent [] []
  | plain {octet : UInt8} {text content : Bytes} (noQuote : octet ≠ 0x22)
      (noBackslash : octet ≠ 0x5C) (noControl : ¬ octet < 0x20)
      (behind : SpellsContent text content) : SpellsContent (octet :: text) (octet :: content)
  | letter {letter octet : UInt8} {text content : Bytes} (stands : escaped? letter = some octet)
      (behind : SpellsContent text content) :
      SpellsContent (0x5C :: letter :: text) (octet :: content)
  | code {first second third fourth : UInt8} {unit : Nat} {text content : Bytes}
      (digits : hexWord? first second third fourth = some unit)
      (notHigh : isHighSurrogate unit = false) (notLow : isLowSurrogate unit = false)
      (behind : SpellsContent text content) :
      SpellsContent (0x5C :: 0x75 :: first :: second :: third :: fourth :: text)
        (String.utf8EncodeChar (Char.ofNat unit) ++ content)
  | pair {first second third fourth fifth sixth seventh eighth : UInt8} {high low : Nat}
      {text content : Bytes} (highDigits : hexWord? first second third fourth = some high)
      (lowDigits : hexWord? fifth sixth seventh eighth = some low)
      (isHigh : isHighSurrogate high = true) (isLow : isLowSurrogate low = true)
      (behind : SpellsContent text content) :
      SpellsContent (0x5C :: 0x75 :: first :: second :: third :: fourth ::
        0x5C :: 0x75 :: fifth :: sixth :: seventh :: eighth :: text)
        (String.utf8EncodeChar (Char.ofNat (pairedPoint high low)) ++ content)

/-- A text that spells a string: its content between quotes. -/
def SpellsString (value : String) (text : Bytes) : Prop :=
  ∃ body, SpellsContent body (utf8 value) ∧ text = 0x22 :: (body ++ [0x22])

/-- No half of a surrogate pair is both the first and the second. -/
theorem isLowSurrogate_of_isHighSurrogate {unit : Nat} (high : isHighSurrogate unit = true) :
    isLowSurrogate unit = false := by
  simp only [isHighSurrogate, isLowSurrogate, Bool.and_eq_true, decide_eq_true_eq,
    Bool.and_eq_false_iff, decide_eq_false_iff_not] at high ⊢
  omega

end Grammar

section Completeness

section Units

variable (content : Bytes) {unit high : Nat} (unreadable : Option Fault)

/-- A unit that is no half of a pair is added as a character. -/
theorem pushUnit_of_point (notHigh : isHighSurrogate unit = false)
    (notLow : isLowSurrogate unit = false) :
    StringState.pushUnit ⟨content, none, unreadable⟩ unit =
      ⟨(String.utf8EncodeChar (Char.ofNat unit)).reverse ++ content, none, unreadable⟩ := by
  simp only [StringState.pushUnit, notLow, notHigh, Bool.false_eq_true, if_false,
    StringState.pushPoint]

/-- The first half of a pair waits for the second. -/
theorem pushUnit_of_high (isHigh : isHighSurrogate unit = true) :
    StringState.pushUnit ⟨content, none, unreadable⟩ unit = ⟨content, some unit, unreadable⟩ := by
  simp only [StringState.pushUnit, isLowSurrogate_of_isHighSurrogate isHigh, isHigh,
    Bool.false_eq_true, if_false, if_true]

/-- The second half of a pair adds the character of the pair. -/
theorem pushUnit_of_low (isLow : isLowSurrogate unit = true) :
    StringState.pushUnit ⟨content, some high, unreadable⟩ unit =
      ⟨(String.utf8EncodeChar (Char.ofNat (pairedPoint high unit))).reverse ++ content, none,
        unreadable⟩ :=
  if_pos isLow

end Units

/-- An escape by a code adds its unit. -/
theorem scanString_unit (state : StringState) {first second third fourth : UInt8} {unit : Nat}
    (digits : hexWord? first second third fourth = some unit) (rest : Bytes) :
    scanString state (0x5C :: 0x75 :: first :: second :: third :: fourth :: rest) =
      scanString (state.pushUnit unit) rest := by
  conv => lhs; unfold scanString
  simp [digits]

/-- A byte that stands for itself is added. -/
theorem scanString_plain (content : Bytes) {octet : UInt8} (noQuote : octet ≠ 0x22)
    (noBackslash : octet ≠ 0x5C) (noControl : ¬ octet < 0x20) (rest : Bytes) :
    scanString ⟨content, none, none⟩ (octet :: rest) =
      scanString ⟨octet :: content, none, none⟩ rest := by
  conv => lhs; unfold scanString
  simp [noQuote, noBackslash, noControl, StringState.settle, StringState.push]

/-- An escape of one letter is read as the byte that it stands for. -/
theorem scanString_letter (content : Bytes) {letter octet : UInt8}
    (stands : escaped? letter = some octet) (rest : Bytes) :
    scanString ⟨content, none, none⟩ (0x5C :: letter :: rest) =
      scanString ⟨octet :: content, none, none⟩ rest := by
  have noCode : letter ≠ 0x75 := by
    rintro rfl
    cases stands
  conv => lhs; unfold scanString
  simp [noCode, stands, StringState.settle, StringState.push]

/-- What is spelled is read as it is spelled, on top of what was read before. -/
theorem SpellsContent.scanString_eq {text content : Bytes} (spells : SpellsContent text content)
    (done rest : Bytes) :
    scanString ⟨done, none, none⟩ (text ++ rest) =
      scanString ⟨content.reverse ++ done, none, none⟩ rest := by
  induction spells generalizing done with
  | done => rfl
  | plain noQuote noBackslash noControl behind inductionHypothesis =>
    rw [List.cons_append, scanString_plain done noQuote noBackslash noControl, inductionHypothesis]
    simp
  | letter stands behind inductionHypothesis =>
    rw [List.cons_append, List.cons_append, scanString_letter done stands, inductionHypothesis]
    simp
  | code digits notHigh notLow behind inductionHypothesis =>
    simp only [List.cons_append, scanString_unit _ digits, pushUnit_of_point _ _ notHigh notLow,
      inductionHypothesis, List.reverse_append, List.append_assoc]
  | pair highDigits lowDigits isHigh isLow behind inductionHypothesis =>
    simp only [List.cons_append, scanString_unit _ highDigits, scanString_unit _ lowDigits,
      pushUnit_of_high _ _ isHigh, pushUnit_of_low _ _ isLow, inductionHypothesis,
      List.reverse_append, List.append_assoc]

/-- A text between quotes is read as the string that it spells. -/
theorem SpellsContent.scanString_quote {body : Bytes} {value : String}
    (spells : SpellsContent body (utf8 value)) (rest : Bytes) :
    scanString ⟨[], none, none⟩ (body ++ 0x22 :: rest) = ⟨⟨.ok value, none⟩, some rest⟩ := by
  rw [spells.scanString_eq]
  conv => lhs; unfold scanString
  simp [StringState.settle, StringState.finish]

end Completeness

section Written

/-- The escape of a control character stands for its code. -/
theorem hexWord?_control {octet : UInt8} (control : octet < 0x20) :
    hexWord? 0x30 0x30 (Text.byte (Text.hexDigit (octet.toNat / 16)))
      (Text.byte (Text.hexDigit (octet.toNat % 16))) = some octet.toNat := by
  have small : octet.toNat < 32 := by simpa using UInt8.lt_iff_toNat_lt.mp control
  have zero : Text.hexValue? 0x30 = some 0 := by decide
  have high := Text.hexValue?_byte_hexDigit (by omega : octet.toNat / 16 < 16)
  have low := Text.hexValue?_byte_hexDigit (by omega : octet.toNat % 16 < 16)
  have whole : octet.toNat / 16 * 16 + octet.toNat % 16 = octet.toNat := by omega
  simp [hexWord?, zero, high, low, whole]

/-- A byte is written as an escape of one letter, as an escape by its code, or as itself. -/
theorem escapeByte_cases (octet : UInt8) :
    (∃ letter, escapeByte octet = [0x5C, letter] ∧ escaped? letter = some octet) ∨
    (octet < 0x20 ∧ escapeByte octet = [0x5C, 0x75, 0x30, 0x30,
      Text.byte (Text.hexDigit (octet.toNat / 16)),
      Text.byte (Text.hexDigit (octet.toNat % 16))]) ∨
    (octet ≠ 0x22 ∧ octet ≠ 0x5C ∧ ¬ octet < 0x20 ∧ escapeByte octet = [octet]) := by
  unfold escapeByte
  repeat' split
  case isFalse.isFalse.isTrue.isFalse.isFalse.isFalse.isFalse.isFalse control _ _ _ _ _ =>
    exact .inr (.inl ⟨control, rfl⟩)
  case isFalse.isFalse.isFalse noQuote noBackslash plain =>
    exact .inr (.inr ⟨by simpa using noQuote, by simpa using noBackslash, plain, rfl⟩)
  all_goals
    next same =>
    rw [eq_of_beq same]
    exact .inl ⟨_, rfl, by decide⟩

/-- A byte is spelled as it is written. -/
theorem SpellsContent.escapeByte (octet : UInt8) {text content : Bytes}
    (behind : SpellsContent text content) :
    SpellsContent (Json.escapeByte octet ++ text) (octet :: content) := by
  rcases escapeByte_cases octet with
    ⟨letter, form, stands⟩ | ⟨control, form⟩ | ⟨noQuote, noBackslash, plain, form⟩
  · rw [form]
    exact .letter stands behind
  · rw [form]
    have small : octet.toNat < 32 := by simpa using UInt8.lt_iff_toNat_lt.mp control
    have notHigh : isHighSurrogate octet.toNat = false := by
      simp only [isHighSurrogate, Bool.and_eq_false_iff, decide_eq_false_iff_not]
      omega
    have notLow : isLowSurrogate octet.toNat = false := by
      simp only [isLowSurrogate, Bool.and_eq_false_iff, decide_eq_false_iff_not]
      omega
    have point : (Char.ofNat octet.toNat).toNat = octet.toNat := Text.toNat_charOfNat (by omega)
    have form : String.utf8EncodeChar (Char.ofNat octet.toNat) = [octet] := by
      rw [Text.utf8EncodeChar_ascii (by omega), Text.byte, point, UInt8.ofNat_toNat]
    have spelled := SpellsContent.code (hexWord?_control control) notHigh notLow behind
    rwa [form] at spelled
  · rw [form]
    exact .plain noQuote noBackslash plain behind

/-- Bytes are spelled as they are written. -/
theorem spellsContent_escaped (bytes : Bytes) :
    SpellsContent (bytes.flatMap escapeByte) bytes := by
  induction bytes with
  | nil => exact .done
  | cons octet bytes inductionHypothesis =>
    rw [List.flatMap_cons]
    exact inductionHypothesis.escapeByte octet

/-- A text between quotes is read as that text. -/
theorem scanString_text (text : String) (rest : Bytes) :
    scanString ⟨[], none, none⟩ ((utf8 text).flatMap escapeByte ++ 0x22 :: rest) =
      ⟨⟨.ok text, none⟩, some rest⟩ :=
  (spellsContent_escaped (utf8 text)).scanString_quote rest

end Written

section Soundness

/-- What a text spells from a state of the reader on, together with what was read before. A high half
that waits has to be followed by its low half. -/
def StringState.Spells (state : StringState) (text whole : Bytes) : Prop :=
  match state.pending with
  | none => ∃ content, SpellsContent text content ∧ whole = state.content.reverse ++ content
  | some high => ∃ first second third fourth low behind content,
    text = 0x5C :: 0x75 :: first :: second :: third :: fourth :: behind ∧
    hexWord? first second third fourth = some low ∧ isLowSurrogate low = true ∧
    SpellsContent behind content ∧
    whole = state.content.reverse ++
      (String.utf8EncodeChar (Char.ofNat (pairedPoint high low)) ++ content)

/-- A string is read from a state of the reader on, up to its quote. -/
def StringState.Reads (state : StringState) (text : Bytes) (value : String) (scan : Scan String) :
    Prop :=
  state.unreadable = none ∧ ∃ body rest, text = body ++ 0x22 :: rest ∧
    state.Spells body (utf8 value) ∧ scan = ⟨⟨.ok value, none⟩, some rest⟩

namespace StringState

variable {state : StringState} {text : Bytes} {value : String} {scan : Scan String}

/-- A string that can be read where no half of a pair may wait has none that waits. -/
theorem eq_of_settle_readable (readable : state.settle.unreadable = none) :
    state = ⟨state.content, none, none⟩ := by
  obtain ⟨content, pending, unreadable⟩ := state
  cases pending with
  | none =>
    obtain rfl : unreadable = none := readable
    rfl
  | some high => cases readable

/-- The content of a string that is finished. -/
theorem finish_eq_ok_iff : state.finish = .ok value ↔
    state.unreadable = none ∧ utf8 value = state.content.reverse := by
  obtain ⟨content, pending, unreadable⟩ := state
  cases unreadable with
  | some fault => simp [finish]
  | none =>
    rw [and_iff_right rfl, eq_comm (b := content.reverse), ← Text.decodeUtf8?_eq_some_iff]
    cases decoded : Text.decodeUtf8? content.reverse <;> simp [finish, decoded]

/-- The quote ends a string. -/
theorem reads_quote {rest : Bytes} (finished : state.settle.finish = .ok value) :
    state.Reads (0x22 :: rest) value ⟨⟨state.settle.finish, none⟩, some rest⟩ := by
  obtain ⟨readable, whole⟩ := finish_eq_ok_iff.mp finished
  rw [finished]
  rw [eq_of_settle_readable readable] at whole ⊢
  exact ⟨rfl, [], rest, rfl, ⟨[], .done, by rw [whole, List.append_nil]; rfl⟩, rfl⟩

/-- A piece that stands for one byte is read where no half of a pair waits. -/
theorem Reads.piece (piece : Bytes) {octet : UInt8}
    (spells : ∀ {text content}, SpellsContent text content →
      SpellsContent (piece ++ text) (octet :: content))
    (reads : (state.settle.push octet).Reads text value scan) :
    state.Reads (piece ++ text) value scan := by
  obtain ⟨readable, body, rest, rfl, goes, scanned⟩ := reads
  rw [eq_of_settle_readable readable] at goes ⊢
  obtain ⟨content, behind, whole⟩ := goes
  exact ⟨rfl, piece ++ body, rest, by simp, ⟨octet :: content, spells behind, by
    rw [whole]; simp [push, settle]⟩, scanned⟩

/-- The second half of a pair is read behind the first. -/
theorem Reads.low {first second third fourth : UInt8} {unit high : Nat} {done : Bytes}
    {unreadable : Option Fault} (digits : hexWord? first second third fourth = some unit)
    (isLow : isLowSurrogate unit = true)
    (reads : (pushUnit ⟨done, some high, unreadable⟩ unit).Reads text value scan) :
    Reads ⟨done, some high, unreadable⟩
      (0x5C :: 0x75 :: first :: second :: third :: fourth :: text) value scan := by
  rw [pushUnit_of_low done unreadable isLow] at reads
  obtain ⟨readable, body, rest, rfl, ⟨content, behind, whole⟩, scanned⟩ := reads
  exact ⟨readable, _ :: _ :: _ :: _ :: _ :: _ :: body, rest, rfl,
    ⟨_, _, _, _, unit, body, content, rfl, digits, isLow, behind, by rw [whole]; simp⟩, scanned⟩

/-- The first half of a pair is read in front of the second. -/
theorem Reads.high {first second third fourth : UInt8} {unit : Nat} {done : Bytes}
    {unreadable : Option Fault} (digits : hexWord? first second third fourth = some unit)
    (isHigh : isHighSurrogate unit = true)
    (reads : (pushUnit ⟨done, none, unreadable⟩ unit).Reads text value scan) :
    Reads ⟨done, none, unreadable⟩
      (0x5C :: 0x75 :: first :: second :: third :: fourth :: text) value scan := by
  rw [pushUnit_of_high done unreadable isHigh] at reads
  obtain ⟨readable, body, rest, rfl, goes, scanned⟩ := reads
  obtain ⟨fifth, sixth, seventh, eighth, low, behind, content, rfl, lowDigits, isLow, spells,
    whole⟩ := goes
  exact ⟨readable, _ :: _ :: _ :: _ :: _ :: _ :: _, rest, rfl,
    ⟨_, .pair digits lowDigits isHigh isLow spells, whole⟩, scanned⟩

/-- An escape by a code that is no half of a pair is read. -/
theorem Reads.code {first second third fourth : UInt8} {unit : Nat} {done : Bytes}
    {unreadable : Option Fault} (digits : hexWord? first second third fourth = some unit)
    (notHigh : isHighSurrogate unit = false) (notLow : isLowSurrogate unit = false)
    (reads : (pushUnit ⟨done, none, unreadable⟩ unit).Reads text value scan) :
    Reads ⟨done, none, unreadable⟩
      (0x5C :: 0x75 :: first :: second :: third :: fourth :: text) value scan := by
  rw [pushUnit_of_point done unreadable notHigh notLow] at reads
  obtain ⟨readable, body, rest, rfl, ⟨content, behind, whole⟩, scanned⟩ := reads
  exact ⟨readable, _ :: _ :: _ :: _ :: _ :: _ :: body, rest, rfl,
    ⟨_, .code digits notHigh notLow behind, by rw [whole]; simp⟩, scanned⟩

/-- An escape by a code is read, unless it is half of a pair without the other half. -/
theorem Reads.unit {first second third fourth : UInt8} {unit : Nat}
    (digits : hexWord? first second third fourth = some unit)
    (reads : (state.pushUnit unit).Reads text value scan) :
    state.Reads (0x5C :: 0x75 :: first :: second :: third :: fourth :: text) value scan := by
  obtain ⟨done, pending, unreadable⟩ := state
  cases isLow : isLowSurrogate unit with
  | true =>
    cases pending with
    | some high => exact reads.low digits isLow
    | none =>
      have spoiled := reads.1
      simp [pushUnit, isLow, spoil] at spoiled
  | false =>
    cases pending with
    | some high =>
      have spoiled := reads.1
      simp [pushUnit, isLow, spoil] at spoiled
    | none =>
      cases isHigh : isHighSurrogate unit with
      | true => exact reads.high digits isHigh
      | false => exact reads.code digits isHigh isLow

end StringState

/-- A string that is read is spelled by the text up to its quote. -/
theorem reads_of_scanString {state : StringState} {text : Bytes} {value : String}
    (read : (scanString state text).token.read = .ok value) :
    state.Reads text value (scanString state text) := by
  fun_induction scanString state text with
  | case2 state octet rest quote =>
    rw [eq_of_beq quote]
    exact StringState.reads_quote read
  | case4 state octet noQuote backslash letter code first second third fourth behind unit digits
      inductionHypothesis =>
    rw [eq_of_beq backslash, eq_of_beq code]
    exact (inductionHypothesis read).unit digits
  | case7 state octet noQuote backslash letter behind noCode plain stands inductionHypothesis =>
    rw [eq_of_beq backslash]
    exact (inductionHypothesis read).piece [0x5C, letter] fun spells => .letter stands spells
  | case10 state octet rest noQuote noBackslash noControl inductionHypothesis =>
    rw [beq_iff_eq] at noQuote noBackslash
    exact (inductionHypothesis read).piece [octet] fun spells =>
      .plain noQuote noBackslash noControl spells
  | _ => cases read

/-- A string is read exactly if the text up to its quote spells it. -/
theorem scanString_read_iff {text : Bytes} {value : String} :
    (scanString ⟨[], none, none⟩ text).token.read = .ok value ↔
      ∃ body rest, text = body ++ 0x22 :: rest ∧ SpellsContent body (utf8 value) := by
  constructor
  · intro read
    obtain ⟨-, body, rest, rfl, ⟨content, spells, whole⟩, -⟩ := reads_of_scanString read
    exact ⟨body, rest, rfl, whole ▸ spells⟩
  · rintro ⟨body, rest, rfl, spells⟩
    rw [spells.scanString_quote]

end Soundness

end GatedResolver.Json
