import GatedResolver.Proofs.Text.Utf8

/-!
# What is read as UTF-8

Bytes are read as a text only if they are the bytes of that text. A step of the scan finds a
character only where its UTF-8 form stands in front of the bytes (`exists_steps`), and what was
found before does not matter to what is found later. So there is no second way to spell a text, and
a character that was cut in two makes bytes unreadable.
-/

namespace GatedResolver.Text

section Characters

variable {lead second third fourth : UInt8}

/-- What a leading byte says of the second byte that it admits. -/
theorem bounds_of_admits (admits : admitsSecond lead second = true) :
    0x80 ≤ second.toNat ∧ second.toNat ≤ 0xBF ∧ (lead.toNat = 0xE0 → 0xA0 ≤ second.toNat) ∧
      (lead.toNat = 0xF0 → 0x90 ≤ second.toNat) ∧ (lead.toNat = 0xED → second.toNat ≤ 0x9F) ∧
        (lead.toNat = 0xF4 → second.toNat ≤ 0x8F) := by
  simp only [admitsSecond, Bool.and_eq_true, decide_eq_true_eq, beq_iff_eq, ← UInt8.toNat_inj,
    UInt8.le_iff_toNat_le, apply_ite UInt8.toNat, UInt8.reduceToNat] at admits
  grind

/-- A byte that continues a character, in numbers. -/
theorem bounds_of_continues (continues : isContinuation third = true) :
    0x80 ≤ third.toNat ∧ third.toNat ≤ 0xBF := by
  simpa only [isContinuation, Bool.and_eq_true, decide_eq_true_eq, UInt8.le_iff_toNat_le,
    UInt8.reduceToNat] using continues

/-- The character of a code point has that code point. -/
theorem toNat_charOfNat_of_isValidChar {point : Nat} (valid : point.isValidChar) :
    (Char.ofNat point).toNat = point := by
  rw [Char.ofNat, dif_pos valid]
  rfl

/-- The UTF-8 form of the character that a byte stands for is that byte. -/
theorem utf8EncodeChar_one (one : lead < 0x80) :
    String.utf8EncodeChar (Char.ofNat lead.toNat) = [lead] := by
  rw [UInt8.lt_iff_toNat_lt] at one
  simp only [UInt8.reduceToNat] at one
  have point := toNat_charOfNat one
  rw [utf8EncodeChar_ascii (by rw [point]; exact one), byte, point, UInt8.ofNat_toNat]

/-- Bytes are the same when their numbers are. -/
theorem ofNat_eq_of_toNat (octet : UInt8) {value : Nat} (same : value = octet.toNat) :
    UInt8.ofNat value = octet := by
  rw [same, UInt8.ofNat_toNat]

/-- The UTF-8 form of the character that two bytes stand for is these two bytes. -/
theorem utf8EncodeChar_two (leads : 0xC2 ≤ lead) (two : lead < 0xE0)
    (admits : admitsSecond lead second = true) :
    String.utf8EncodeChar (Char.ofNat (lead.toNat % 32 * 64 + payloadBits second)) =
      [lead, second] := by
  have bounds := bounds_of_admits admits
  simp only [UInt8.le_iff_toNat_le, UInt8.lt_iff_toNat_lt, UInt8.reduceToNat] at leads two
  have point := toNat_charOfNat_of_isValidChar
    (show (lead.toNat % 32 * 64 + payloadBits second).isValidChar by
      simp only [payloadBits, Nat.isValidChar]
      omega)
  simp only [payloadBits] at point ⊢
  rcases utf8EncodeChar_cases (Char.ofNat (lead.toNat % 32 * 64 + second.toNat % 64)) with
    ⟨small, -⟩ | ⟨least, small, form⟩ | ⟨least, -⟩ | ⟨least, -⟩
  · omega
  · rw [form, point, ofNat_eq_of_toNat lead, ofNat_eq_of_toNat second] <;> omega
  · omega
  · omega

/-- The UTF-8 form of the character that three bytes stand for is these three bytes. -/
theorem utf8EncodeChar_three (leads : 0xE0 ≤ lead) (three : lead < 0xF0)
    (admits : admitsSecond lead second = true) (continues : isContinuation third = true) :
    String.utf8EncodeChar (Char.ofNat (lead.toNat % 16 * 4096 + payloadBits second * 64 +
      payloadBits third)) = [lead, second, third] := by
  have seconds := bounds_of_admits admits
  have thirds := bounds_of_continues continues
  simp only [UInt8.le_iff_toNat_le, UInt8.lt_iff_toNat_lt, UInt8.reduceToNat] at leads three
  have point := toNat_charOfNat_of_isValidChar
    (show (lead.toNat % 16 * 4096 + payloadBits second * 64 + payloadBits third).isValidChar by
      simp only [payloadBits, Nat.isValidChar]
      omega)
  simp only [payloadBits] at point ⊢
  rcases utf8EncodeChar_cases (Char.ofNat (lead.toNat % 16 * 4096 + second.toNat % 64 * 64 +
    third.toNat % 64)) with ⟨small, -⟩ | ⟨-, small, -⟩ | ⟨least, small, -, form⟩ | ⟨least, -⟩
  · omega
  · omega
  · rw [form, point, ofNat_eq_of_toNat lead, ofNat_eq_of_toNat second, ofNat_eq_of_toNat third] <;>
      omega
  · omega

/-- The UTF-8 form of the character that four bytes stand for is these four bytes. -/
theorem utf8EncodeChar_four (leads : 0xF0 ≤ lead) (four : lead ≤ 0xF4)
    (admits : admitsSecond lead second = true) (continues : isContinuation third = true)
    (ends : isContinuation fourth = true) :
    String.utf8EncodeChar (Char.ofNat (lead.toNat % 8 * 262144 + payloadBits second * 4096 +
      payloadBits third * 64 + payloadBits fourth)) = [lead, second, third, fourth] := by
  have seconds := bounds_of_admits admits
  have thirds := bounds_of_continues continues
  have fourths := bounds_of_continues ends
  simp only [UInt8.le_iff_toNat_le, UInt8.reduceToNat] at leads four
  have point := toNat_charOfNat_of_isValidChar
    (show (lead.toNat % 8 * 262144 + payloadBits second * 4096 + payloadBits third * 64 +
        payloadBits fourth).isValidChar by
      simp only [payloadBits, Nat.isValidChar]
      omega)
  simp only [payloadBits] at point ⊢
  rcases utf8EncodeChar_cases (Char.ofNat (lead.toNat % 8 * 262144 + second.toNat % 64 * 4096 +
    third.toNat % 64 * 64 + fourth.toNat % 64)) with
    ⟨small, -⟩ | ⟨-, small, -⟩ | ⟨-, small, -⟩ | ⟨least, small, form⟩
  · omega
  · omega
  · omega
  · rw [form, point, ofNat_eq_of_toNat lead, ofNat_eq_of_toNat second,
      ofNat_eq_of_toNat third, ofNat_eq_of_toNat fourth] <;> omega

end Characters

/-- A step of the scan from some bytes to later ones. What it finds is a damaged piece, or a
character whose UTF-8 form stands in front of the later bytes; what was found before has no say in
it. -/
structure Steps (bytes : Bytes) (item : Option Char) (later : Bytes) : Prop where
  shorter : later.length < bytes.length
  goes : ∀ found, scanUtf8 found bytes = scanUtf8 (item :: found) later
  spells : ∀ character, item = some character → bytes = String.utf8EncodeChar character ++ later

/-- A step over the UTF-8 form of a character. -/
theorem Steps.character {bytes form later : Bytes} {character : Char} (apart : bytes = form ++ later)
    (forms : String.utf8EncodeChar character = form)
    (goes : ∀ found, scanUtf8 found bytes = scanUtf8 (some character :: found) later) :
    Steps bytes (some character) later where
  shorter := by
    have present := Char.utf8Size_pos character
    rw [← String.length_utf8EncodeChar, forms] at present
    rw [apart, List.length_append]
    omega
  goes := goes
  spells := by
    rintro other ⟨⟩
    rw [forms, apart]

/-- A step over a damaged piece. -/
theorem Steps.damage {bytes later : Bytes} (shorter : later.length < bytes.length)
    (goes : ∀ found, scanUtf8 found bytes = scanUtf8 (none :: found) later) :
    Steps bytes none later :=
  ⟨shorter, goes, by simp⟩

/-- The scan takes a step wherever there are bytes. -/
theorem exists_steps (lead : UInt8) (rest : Bytes) :
    ∃ item later, Steps (lead :: rest) item later := by
  -- The cases are those of the scan: each byte either ends a damaged piece or keeps it whole.
  by_cases one : lead < 0x80
  · exact ⟨_, rest, .character rfl (utf8EncodeChar_one one) fun found =>
      scanUtf8_one found rest one⟩
  by_cases outside : (lead < 0xC2 || 0xF4 < lead) = true
  · exact ⟨none, rest, .damage (by simp) fun found => by
      conv => lhs; unfold scanUtf8
      simp only [one, outside, if_true, if_false]⟩
  have leads : 0xC2 ≤ lead ∧ lead ≤ 0xF4 := by simpa using outside
  rcases rest with _ | ⟨second, rest⟩
  · exact ⟨none, [], .damage (by simp) fun found => by
      conv => lhs; unfold scanUtf8
      simp [one, outside, scanUtf8]⟩
  by_cases refused : admitsSecond lead second = false
  · exact ⟨none, second :: rest, .damage (by simp) fun found => by
      conv => lhs; unfold scanUtf8
      simp [one, outside, refused]⟩
  have admits := Bool.not_eq_false _ |>.mp refused
  by_cases two : lead < 0xE0
  · exact ⟨_, rest, .character rfl (utf8EncodeChar_two leads.1 two admits) fun found =>
      scanUtf8_two found rest leads.1 two admits⟩
  rcases rest with _ | ⟨third, rest⟩
  · exact ⟨none, [], .damage (by simp) fun found => by
      conv => lhs; unfold scanUtf8
      simp [one, outside, admits, two, scanUtf8]⟩
  by_cases stops : isContinuation third = false
  · exact ⟨none, third :: rest, .damage (by simp) fun found => by
      conv => lhs; unfold scanUtf8
      simp [one, outside, admits, two, stops]⟩
  have continues := Bool.not_eq_false _ |>.mp stops
  by_cases three : lead < 0xF0
  · exact ⟨_, rest, .character rfl
      (utf8EncodeChar_three (UInt8.not_lt.mp two) three admits continues) fun found =>
        scanUtf8_three found rest (UInt8.not_lt.mp two) three admits continues⟩
  rcases rest with _ | ⟨fourth, rest⟩
  · exact ⟨none, [], .damage (by simp) fun found => by
      conv => lhs; unfold scanUtf8
      simp [one, outside, admits, two, continues, three, scanUtf8]⟩
  by_cases breaks : isContinuation fourth = false
  · exact ⟨none, fourth :: rest, .damage (by simp) fun found => by
      conv => lhs; unfold scanUtf8
      simp [one, outside, admits, two, continues, three, breaks]⟩
  have ends := Bool.not_eq_false _ |>.mp breaks
  exact ⟨_, rest, .character rfl
    (utf8EncodeChar_four (UInt8.not_lt.mp three) leads.2 admits continues ends) fun found =>
      scanUtf8_four found rest (UInt8.not_lt.mp three) leads.2 admits continues ends⟩

/-- What was found before stays in front of what is found later. -/
theorem scanUtf8_eq (found : List (Option Char)) (bytes : Bytes) :
    scanUtf8 found bytes = found.reverse ++ scanUtf8 [] bytes := by
  cases bytes with
  | nil => simp [scanUtf8]
  | cons lead rest =>
    obtain ⟨item, later, shorter, goes, -⟩ := exists_steps lead rest
    rw [goes, goes [], scanUtf8_eq (item :: found) later, scanUtf8_eq [item] later]
    simp
termination_by bytes.length
decreasing_by all_goals exact shorter

/-- A step finds its item first. -/
theorem Steps.scanUtf8_eq {bytes later : Bytes} {item : Option Char} (steps : Steps bytes item later) :
    scanUtf8 [] bytes = item :: scanUtf8 [] later := by
  rw [steps.goes, Text.scanUtf8_eq]
  rfl

/-- Something is found wherever there are bytes. -/
theorem scanUtf8_ne_nil {bytes : Bytes} (present : bytes ≠ []) : scanUtf8 [] bytes ≠ [] := by
  obtain ⟨lead, rest, rfl⟩ := List.exists_cons_of_ne_nil present
  obtain ⟨item, later, steps⟩ := exists_steps lead rest
  rw [steps.scanUtf8_eq]
  exact List.cons_ne_nil _ _

/-- Bytes without a damaged piece are those of the characters that are found. -/
theorem eq_flatMap_of_scanUtf8 {bytes : Bytes} {characters : List Char}
    (found : scanUtf8 [] bytes = characters.map some) :
    bytes = characters.flatMap String.utf8EncodeChar := by
  induction characters generalizing bytes with
  | nil => exact Decidable.byContradiction fun present => scanUtf8_ne_nil present found
  | cons character others inductionHypothesis =>
    cases bytes with
    | nil => cases found
    | cons lead rest =>
      obtain ⟨item, later, steps⟩ := exists_steps lead rest
      rw [steps.scanUtf8_eq, List.map_cons, List.cons.injEq] at found
      rw [steps.spells character found.1, List.flatMap_cons, ← inductionHypothesis found.2]

/-- Bytes are read as a text exactly if they are the bytes of that text. -/
theorem decodeUtf8?_eq_some_iff {bytes : Bytes} {text : String} :
    decodeUtf8? bytes = some text ↔ bytes = utf8 text := by
  constructor
  · intro read
    simp only [decodeUtf8?] at read
    split at read
    · next whole =>
      cases read
      have pieces : ((scanUtf8 [] bytes).filterMap id).map some = scanUtf8 [] bytes := by
        rw [List.map_filterMap_some_eq_filter_map_isSome, List.map_id,
          List.filter_eq_self.mpr (List.all_eq_true.mp whole)]
      rw [utf8, String.toList_ofList]
      exact eq_flatMap_of_scanUtf8 pieces.symm
    · cases read
  · rintro rfl
    exact decodeUtf8?_utf8 text

/-- What stands behind a character is scanned after it. -/
theorem scanUtf8_first (character : Char) (rest : Bytes) :
    scanUtf8 [] (String.utf8EncodeChar character ++ rest) = some character :: scanUtf8 [] rest := by
  rw [scanUtf8_char, scanUtf8_eq]
  rfl

/-- What stands behind a text is scanned after the text. -/
theorem scanUtf8_append (characters : List Char) (rest : Bytes) :
    scanUtf8 [] (characters.flatMap String.utf8EncodeChar ++ rest) =
      characters.map some ++ scanUtf8 [] rest := by
  induction characters with
  | nil => rfl
  | cons character others inductionHypothesis =>
    rw [List.flatMap_cons, List.append_assoc, scanUtf8_first, inductionHypothesis, List.map_cons,
      List.cons_append]

/-- Bytes that are cut within a character are those of no text. -/
theorem utf8_ne_of_cut (front text : String) {character : Char} {cut left : Bytes}
    (apart : String.utf8EncodeChar character = cut ++ left) (begun : cut ≠ [])
    (unfinished : left ≠ []) : utf8 front ++ cut ≠ utf8 text := by
  intro same
  have scanned := congrArg (scanUtf8 []) same
  rw [utf8, utf8, scanUtf8_append, scanUtf8_utf8, List.reverse_nil, List.nil_append] at scanned
  obtain ⟨before, behind, -, -, found⟩ := List.map_eq_append_iff.mp scanned.symm
  have spelled := eq_flatMap_of_scanUtf8 found.symm
  cases behind with
  | nil => exact begun spelled
  | cons first others =>
    -- The cut would begin with a whole character, and the rest of the other one stand behind it.
    rw [spelled, List.flatMap_cons, List.append_assoc] at apart
    have pieces : some character :: scanUtf8 [] [] =
        some first :: scanUtf8 [] (others.flatMap String.utf8EncodeChar ++ left) := by
      rw [← scanUtf8_first, ← scanUtf8_first, List.append_nil, apart]
    exact scanUtf8_ne_nil (List.append_ne_nil_of_right_ne_nil _ unfinished)
      (List.cons.inj pieces).2.symm

end GatedResolver.Text
