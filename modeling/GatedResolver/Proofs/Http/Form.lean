import GatedResolver.Http.NameQuery
import GatedResolver.Proofs.Text.Utf8

/-!
# Form encoding read back

The encoding of a text consists of plain signs, plus signs and escapes, none of which separates
pairs or ends a query. So a pair is decoded as it was encoded, whatever its texts are.
-/

namespace GatedResolver.Http.Form

open Text (byte utf8)

/-- Characters of an encoded text. -/
def isEncoded (character : Char) : Bool :=
  character.toNat < 0x80 &&
    (isPlain (byte character) || character == '+' || character == '%')

/-- The digit of a number below sixteen stands for that number, and it is plain. -/
theorem upperHexDigit_spec {value : Nat} (small : value < 16) :
    Text.hexValue? (byte (Percent.upperHexDigit value)) = some value ∧
      (Percent.upperHexDigit value).toNat < 0x80 ∧
        isPlain (byte (Percent.upperHexDigit value)) = true ∧
          plusToSpace (byte (Percent.upperHexDigit value)) =
            byte (Percent.upperHexDigit value) := by
  have all : ∀ digit : Fin 16, Text.hexValue? (byte (Percent.upperHexDigit digit)) = some digit.val ∧
      (Percent.upperHexDigit digit).toNat < 0x80 ∧
        isPlain (byte (Percent.upperHexDigit digit)) = true ∧
          plusToSpace (byte (Percent.upperHexDigit digit)) =
            byte (Percent.upperHexDigit digit) := by decide
  exact all ⟨value, small⟩

/-- A plain byte is ASCII and stands for itself. -/
theorem toNat_lt_of_isPlain {octet : UInt8} (plain : isPlain octet = true) :
    octet.toNat < 0x80 := by
  simp only [isPlain, Bool.or_eq_true, Bool.and_eq_true, decide_eq_true_eq, beq_iff_eq,
    UInt8.le_iff_toNat_le, ← UInt8.toNat_inj, UInt8.reduceToNat] at plain
  omega

/-- The character of a plain byte is that byte. -/
theorem byte_ofNat_of_isPlain {octet : UInt8} (plain : isPlain octet = true) :
    byte (Char.ofNat octet.toNat) = octet := by
  rw [byte, Text.toNat_charOfNat (toNat_lt_of_isPlain plain), UInt8.ofNat_toNat]

/-- An encoded byte consists of characters of encoded texts. -/
theorem isEncoded_of_mem_encodeByte {octet : UInt8} {character : Char}
    (belongs : character ∈ encodeByte octet) : isEncoded character = true := by
  unfold encodeByte at belongs
  split at belongs
  · next plain =>
    rw [List.mem_singleton.mp belongs]
    have ascii := toNat_lt_of_isPlain plain
    simp [isEncoded, byte_ofNat_of_isPlain plain, plain, Text.toNat_charOfNat ascii, ascii]
  · split at belongs
    · rw [List.mem_singleton.mp belongs]
      decide
    · have bound := octet.toNat_lt
      obtain ⟨-, highAscii, highPlain, -⟩ := upperHexDigit_spec (by omega : octet.toNat / 16 < 16)
      obtain ⟨-, lowAscii, lowPlain, -⟩ := upperHexDigit_spec (by omega : octet.toNat % 16 < 16)
      simp only [Percent.escape, List.mem_cons, List.not_mem_nil, or_false] at belongs
      rcases belongs with rfl | rfl | rfl
      · decide
      · simp [isEncoded, highAscii, highPlain]
      · simp [isEncoded, lowAscii, lowPlain]

/-- An encoded text consists of characters of encoded texts. -/
theorem isEncoded_of_mem_encodeText {text : String} {character : Char}
    (belongs : character ∈ encodeText text) : isEncoded character = true := by
  obtain ⟨octet, -, inside⟩ := List.mem_flatMap.mp belongs
  exact isEncoded_of_mem_encodeByte inside

/-- A text is no shorter when it is encoded. -/
theorem size_le_encodeText (text : String) : text.utf8ByteSize ≤ (encodeText text).length := by
  rw [← Text.length_utf8]
  refine Text.length_le_flatMap (fun octet => ?_) _
  simp only [encodeByte]
  repeat' split
  all_goals simp [Percent.escape]

/-- A text gets at most three times as long when it is encoded. -/
theorem length_encodeText_le (text : String) : (encodeText text).length ≤ 3 * text.utf8ByteSize := by
  have each : ∀ octet, (encodeByte octet).length ≤ 3 := by
    intro octet
    simp only [encodeByte]
    repeat' split
    all_goals simp [Percent.escape]
  rw [← Text.length_utf8, encodeText]
  induction Text.utf8 text with
  | nil => simp
  | cons octet rest inductionHypothesis =>
    have first := each octet
    rw [List.flatMap_cons, List.length_append, List.length_cons]
    omega

/-- A byte that begins no escape stands for itself. -/
theorem decodeOnto_cons (done : Bytes) {octet : UInt8} (noEscape : octet ≠ 0x25) (rest : Bytes) :
    Percent.decodeOnto done (octet :: rest) = Percent.decodeOnto (octet :: done) rest := by
  conv => lhs; unfold Percent.decodeOnto
  simp [noEscape]

/-- An escape stands for its byte. -/
theorem decodeOnto_escape (done : Bytes) (octet : UInt8) (rest : Bytes) :
    Percent.decodeOnto done ((Percent.escape octet).map byte ++ rest) =
      Percent.decodeOnto (octet :: done) rest := by
  have bound := octet.toNat_lt
  obtain ⟨highReads, -⟩ := upperHexDigit_spec (by omega : octet.toNat / 16 < 16)
  obtain ⟨lowReads, -⟩ := upperHexDigit_spec (by omega : octet.toNat % 16 < 16)
  have percent : byte '%' = 0x25 := rfl
  simp only [Percent.escape, List.map_cons, List.map_nil, List.cons_append, List.nil_append, percent]
  conv => lhs; unfold Percent.decodeOnto
  simp [highReads, lowReads, Nat.div_add_mod]

/-- A byte is decoded as it was encoded. -/
theorem decodeOnto_encodeByte (done : Bytes) (octet : UInt8) (rest : Bytes) :
    Percent.decodeOnto done ((encodeByte octet).map (fun character => plusToSpace (byte character)) ++
      rest) = Percent.decodeOnto (octet :: done) rest := by
  unfold encodeByte
  split
  · next plain =>
    have noEscape : octet ≠ 0x25 := by
      rintro rfl
      cases plain
    have noPlus : octet ≠ 0x2B := by
      rintro rfl
      cases plain
    simp only [List.map_cons, List.map_nil, byte_ofNat_of_isPlain plain, List.singleton_append]
    rw [plusToSpace, if_neg (by simpa using noPlus), decodeOnto_cons done noEscape]
  · split
    · next space =>
      rw [eq_of_beq space]
      exact decodeOnto_cons done (by decide) rest
    · have bound := octet.toNat_lt
      obtain ⟨-, -, -, highStays⟩ := upperHexDigit_spec (by omega : octet.toNat / 16 < 16)
      obtain ⟨-, -, -, lowStays⟩ := upperHexDigit_spec (by omega : octet.toNat % 16 < 16)
      have stays : (Percent.escape octet).map (fun character => plusToSpace (byte character)) =
          (Percent.escape octet).map byte := by
        simp only [Percent.escape, List.map_cons, List.map_nil, highStays, lowStays]
        rfl
      rw [stays, decodeOnto_escape]

/-- Bytes are decoded as they were encoded. -/
theorem decodeOnto_encoded (done bytes : Bytes) :
    Percent.decodeOnto done
        ((bytes.flatMap encodeByte).map (fun character => plusToSpace (byte character))) =
      done.reverse ++ bytes := by
  induction bytes generalizing done with
  | nil => simp [Percent.decodeOnto]
  | cons octet rest inductionHypothesis =>
    rw [List.flatMap_cons, List.map_append, decodeOnto_encodeByte, inductionHypothesis]
    simp

/-- A text is decoded as it was encoded. -/
theorem decodeText_encodeText (text : String) :
    decodeText ((encodeText text).map byte) = text := by
  rw [decodeText, Percent.decode, List.map_map, encodeText]
  rw [show (plusToSpace ∘ byte) = fun character => plusToSpace (byte character) from rfl,
    decodeOnto_encoded, List.reverse_nil, List.nil_append, Text.decodeUtf8Lossy_utf8]

/-- A character of an encoded text separates neither pairs nor a key from its value. -/
theorem byte_ne_of_isEncoded {character : Char} (encoded : isEncoded character = true) :
    byte character ≠ 0x26 ∧ byte character ≠ 0x3D := by
  simp only [isEncoded, Bool.and_eq_true, Bool.or_eq_true, beq_iff_eq] at encoded
  rcases encoded with ⟨-, (plain | rfl) | rfl⟩
  · constructor
    · intro same
      rw [same] at plain
      cases plain
    · intro same
      rw [same] at plain
      cases plain
  · decide
  · decide

/-- The bytes of an encoded text separate neither pairs nor a key from its value. -/
theorem notMem_encodeText (text : String) :
    0x26 ∉ (encodeText text).map byte ∧ 0x3D ∉ (encodeText text).map byte := by
  constructor
  · intro belongs
    obtain ⟨character, inside, same⟩ := List.mem_map.mp belongs
    exact (byte_ne_of_isEncoded (isEncoded_of_mem_encodeText inside)).1 same
  · intro belongs
    obtain ⟨character, inside, same⟩ := List.mem_map.mp belongs
    exact (byte_ne_of_isEncoded (isEncoded_of_mem_encodeText inside)).2 same

/-- Bytes without the sign behind keys are passed over where a part is cut. -/
theorem passed_of_notMem {part : Bytes} (noSign : 0x3D ∉ part) :
    ∀ octet ∈ part, decide (octet ≠ 0x3D) = true := by
  intro octet belongs
  rw [decide_eq_true_eq]
  rintro rfl
  exact noSign belongs

/-- A part is cut at the sign behind its key. -/
theorem cutPair_append {key : Bytes} (noSign : 0x3D ∉ key) (value : Bytes) :
    cutPair (key ++ 0x3D :: value) = (key, value) := by
  have all := passed_of_notMem noSign
  rw [cutPair, List.takeWhile_append_of_pos all, List.dropWhile_append_of_pos all]
  simp

/-- A part without a sign is a key. -/
theorem cutPair_of_notMem {part : Bytes} (noSign : 0x3D ∉ part) : cutPair part = (part, []) := by
  have all := passed_of_notMem noSign
  rw [cutPair, ← List.append_nil part, List.takeWhile_append_of_pos all,
    List.dropWhile_append_of_pos all]
  simp

/-- An encoded pair consists of characters of encoded texts and the sign between them. -/
theorem isEncoded_of_mem_encodePair {pair : String × String} {character : Char}
    (belongs : character ∈ encodePair pair) : isEncoded character = true ∨ character = '=' := by
  rcases List.mem_append.mp belongs with key | sign
  · exact .inl (isEncoded_of_mem_encodeText key)
  · rcases List.mem_cons.mp sign with same | value
    · exact .inr same
    · exact .inl (isEncoded_of_mem_encodeText value)

/-- The characters of the query string of one pair. -/
theorem toList_encode (pair : String × String) : (encode [pair]).toList = encodePair pair := by
  rw [encode, List.map_cons, List.map_nil, List.intercalate_singleton, String.toList_ofList]

/-- The bytes of an encoded pair: those of the key, the sign, and those of the value. -/
theorem utf8_encode (pair : String × String) :
    utf8 (encode [pair]) =
      (encodeText pair.1).map byte ++ 0x3D :: (encodeText pair.2).map byte := by
  have ascii : ∀ character ∈ encodePair pair, character.toNat < 0x80 := by
    intro character belongs
    rcases isEncoded_of_mem_encodePair belongs with encoded | rfl
    · simp only [isEncoded, Bool.and_eq_true, decide_eq_true_eq] at encoded
      exact encoded.1
    · decide
  rw [← String.ofList_toList (s := encode [pair]), toList_encode, Text.utf8_ofList_ascii ascii,
    encodePair, List.map_append, List.map_cons]
  rfl

/-- The query string of one pair is at most three times as long as its texts, and the sign between
them. -/
theorem utf8ByteSize_encode_le (pair : String × String) :
    (encode [pair]).utf8ByteSize ≤ 3 * pair.1.utf8ByteSize + 3 * pair.2.utf8ByteSize + 1 := by
  have key := length_encodeText_le pair.1
  have value := length_encodeText_le pair.2
  rw [← Text.length_utf8, utf8_encode, List.length_append, List.length_cons, List.length_map,
    List.length_map]
  omega

/-- One pair is decoded as it was encoded. -/
theorem decode_encode_single (pair : String × String) : decode (encode [pair]) = [pair] := by
  obtain ⟨keyPairs, keySigns⟩ := notMem_encodeText pair.1
  obtain ⟨valuePairs, -⟩ := notMem_encodeText pair.2
  have onePart : 0x26 ∉ (encodeText pair.1).map byte ++ 0x3D :: (encodeText pair.2).map byte := by
    intro belongs
    rcases List.mem_append.mp belongs with key | value
    · exact keyPairs key
    · rcases List.mem_cons.mp value with sign | value
      · cases sign
      · exact valuePairs value
  have kept : ([(encodeText pair.1).map byte ++ 0x3D :: (encodeText pair.2).map byte].filter
      fun part => !part.isEmpty) = [(encodeText pair.1).map byte ++ 0x3D ::
        (encodeText pair.2).map byte] := by simp
  rw [decode, utf8_encode, Text.split_of_notMem onePart, kept, List.map_singleton, decodePair,
    cutPair_append keySigns]
  simp only [decodeText_encodeText]

/-- The pairs before a separator come before those behind it, whatever they are. -/
theorem decode_append (front back : String) :
    decode (front ++ "&" ++ back) = decode front ++ decode back := by
  have separator : utf8 "&" = [0x26] := rfl
  rw [decode, Text.utf8_append, Text.utf8_append, separator, List.append_assoc,
    List.singleton_append, Text.split_append, List.filter_append, List.map_append, decode, decode]

/-- The query string of a pair with others behind it. -/
theorem encode_cons (pair second : String × String) (rest : List (String × String)) :
    encode (pair :: second :: rest) = encode [pair] ++ "&" ++ encode (second :: rest) := by
  refine String.toList_inj.mp ?_
  simp [encode, List.intercalate_cons_cons]

/-- Pairs are decoded as they were encoded. -/
theorem decode_encode (pairs : List (String × String)) : decode (encode pairs) = pairs := by
  induction pairs with
  | nil => rfl
  | cons pair rest inductionHypothesis =>
    cases rest with
    | nil => exact decode_encode_single pair
    | cons second others =>
      rw [encode_cons, decode_append, decode_encode_single, inductionHypothesis,
        List.singleton_append]

end GatedResolver.Http.Form

namespace GatedResolver.Http

/-- A name is found in a query string as it was written into it. -/
theorem queriedName?_encode (text : String) :
    queriedName? (some (Form.encode [("name", text)])) = some text := by
  rw [queriedName?, Option.bind_some, Form.decode_encode]
  rfl

/-- A name that is written into a query string is that name, whatever the default is. -/
theorem nameOr_encode (name fallback : Name) :
    nameOr (some (Form.encode [("name", name.text)])) fallback = name := by
  rw [nameOr, parsedName?, queriedName?_encode, Option.bind_some, Name.ofText?, Name.ofText_text]
  rfl

end GatedResolver.Http
