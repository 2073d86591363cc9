import GatedResolver.Proofs.Http.Form

/-!
# The name in a query string

A query string is cut into parts, and a part that is not empty stands for a pair (`Pairs`): its key
and its value are unescaped bytes (`Unescapes`), read as text. The name is the value of the first
part whose key is `name` (`queriedName?_eq_some_iff`). Every query string is read, so it does not
matter what a reader would do with one that is not.
-/

namespace GatedResolver.Http

open Text (utf8)

namespace Form

section Unescaping

/-- Two hexadecimal digits come first. -/
def StartsEscape (rest : Bytes) : Prop :=
  ∃ high low behind highValue lowValue, rest = high :: low :: behind ∧
    Text.hexValue? high = some highValue ∧ Text.hexValue? low = some lowValue

/-- The bytes that encoded bytes stand for: a plus sign is a space, a percent sign with two
hexadecimal digits is the byte with that number, and any other byte is itself. -/
inductive Unescapes : Bytes → Bytes → Prop where
  | nothing : Unescapes [] []
  | plus {rest bytes : Bytes} (behind : Unescapes rest bytes) :
      Unescapes (0x2B :: rest) (0x20 :: bytes)
  | escape {high low : UInt8} {highValue lowValue : Nat} {rest bytes : Bytes}
      (highDigit : Text.hexValue? high = some highValue)
      (lowDigit : Text.hexValue? low = some lowValue) (behind : Unescapes rest bytes) :
      Unescapes (0x25 :: high :: low :: rest)
        (UInt8.ofNat (16 * highValue + lowValue) :: bytes)
  | percent {rest bytes : Bytes} (alone : ¬ StartsEscape rest) (behind : Unescapes rest bytes) :
      Unescapes (0x25 :: rest) (0x25 :: bytes)
  | plain {octet : UInt8} {rest bytes : Bytes} (noPlus : octet ≠ 0x2B) (noPercent : octet ≠ 0x25)
      (behind : Unescapes rest bytes) : Unescapes (octet :: rest) (octet :: bytes)

/-- Digits are no plus signs. -/
theorem plusToSpace_of_digit {octet : UInt8} {value : Nat}
    (digit : Text.hexValue? octet = some value) : plusToSpace octet = octet := by
  have noPlus : octet ≠ 0x2B := by
    rintro rfl
    cases digit
  rw [plusToSpace, if_neg (by simpa using noPlus)]

/-- A plus sign is no digit, and neither is a space. -/
theorem hexValue?_plusToSpace (octet : UInt8) :
    Text.hexValue? (plusToSpace octet) = Text.hexValue? octet := by
  unfold plusToSpace
  split
  · next plus =>
    rw [eq_of_beq plus]
    rfl
  · rfl

/-- Where an escape comes first, one does that has its plus signs left. -/
theorem startsEscape_of_map {rest : Bytes} (starts : StartsEscape (rest.map plusToSpace)) :
    StartsEscape rest := by
  obtain ⟨high, low, behind, highValue, lowValue, parts, highDigit, lowDigit⟩ := starts
  obtain ⟨first, others, rfl, rfl, remaining⟩ := List.map_eq_cons_iff.mp parts
  obtain ⟨second, last, rfl, rfl, -⟩ := List.map_eq_cons_iff.mp remaining
  rw [hexValue?_plusToSpace] at highDigit lowDigit
  exact ⟨first, second, last, highValue, lowValue, rfl, highDigit, lowDigit⟩

/-- An escape is decoded to its byte. -/
theorem decodeOnto_digits (done : Bytes) {high low : UInt8} {highValue lowValue : Nat}
    (highDigit : Text.hexValue? high = some highValue)
    (lowDigit : Text.hexValue? low = some lowValue) (rest : Bytes) :
    Percent.decodeOnto done (0x25 :: high :: low :: rest) =
      Percent.decodeOnto (UInt8.ofNat (16 * highValue + lowValue) :: done) rest := by
  conv => lhs; unfold Percent.decodeOnto
  simp [highDigit, lowDigit]

/-- A percent sign without digits behind it is decoded to itself. -/
theorem decodeOnto_alone (done : Bytes) {rest : Bytes} (alone : ¬ StartsEscape rest) :
    Percent.decodeOnto done (0x25 :: rest) = Percent.decodeOnto (0x25 :: done) rest := by
  conv => lhs; unfold Percent.decodeOnto
  rcases rest with _ | ⟨high, _ | ⟨low, behind⟩⟩
  · rfl
  · rfl
  · cases highDigit : Text.hexValue? high with
    | none => simp [highDigit]
    | some highValue =>
      cases lowDigit : Text.hexValue? low with
      | none => simp [highDigit, lowDigit]
      | some lowValue =>
        exact absurd ⟨high, low, behind, highValue, lowValue, rfl, highDigit, lowDigit⟩ alone

/-- Encoded bytes are decoded to what they stand for. -/
theorem decodeOnto_of_unescapes {encoded bytes : Bytes} (unescapes : Unescapes encoded bytes)
    (done : Bytes) :
    Percent.decodeOnto done (encoded.map plusToSpace) = done.reverse ++ bytes := by
  induction unescapes generalizing done with
  | nothing => simp [Percent.decodeOnto]
  | plus behind inductionHypothesis =>
    have space : plusToSpace 0x2B = 0x20 := rfl
    rw [List.map_cons, space, decodeOnto_cons done (by decide), inductionHypothesis]
    simp
  | escape highDigit lowDigit behind inductionHypothesis =>
    have percent : plusToSpace 0x25 = 0x25 := rfl
    rw [List.map_cons, List.map_cons, List.map_cons, percent, plusToSpace_of_digit highDigit,
      plusToSpace_of_digit lowDigit, decodeOnto_digits done highDigit lowDigit,
      inductionHypothesis]
    simp
  | percent alone behind inductionHypothesis =>
    have percent : plusToSpace 0x25 = 0x25 := rfl
    rw [List.map_cons, percent, decodeOnto_alone done (mt startsEscape_of_map alone),
      inductionHypothesis]
    simp
  | plain noPlus noPercent behind inductionHypothesis =>
    rw [List.map_cons, plusToSpace, if_neg (by simpa using noPlus), decodeOnto_cons done noPercent,
      inductionHypothesis]
    simp

/-- All bytes stand for something. -/
theorem exists_unescapes : (encoded : Bytes) → ∃ bytes, Unescapes encoded bytes
  | [] => ⟨[], .nothing⟩
  | octet :: rest => by
    by_cases percent : octet = 0x25
    · subst percent
      by_cases starts : StartsEscape rest
      · obtain ⟨high, low, behind, highValue, lowValue, rfl, highDigit, lowDigit⟩ := starts
        obtain ⟨bytes, unescapes⟩ := exists_unescapes behind
        exact ⟨_, .escape highDigit lowDigit unescapes⟩
      · obtain ⟨bytes, unescapes⟩ := exists_unescapes rest
        exact ⟨_, .percent starts unescapes⟩
    · obtain ⟨bytes, unescapes⟩ := exists_unescapes rest
      by_cases plus : octet = 0x2B
      · subst plus
        exact ⟨_, .plus unescapes⟩
      · exact ⟨_, .plain plus percent unescapes⟩
  termination_by encoded => encoded.length

/-- Encoded bytes stand for exactly what they are decoded to. -/
theorem unescapes_iff {encoded bytes : Bytes} :
    Unescapes encoded bytes ↔ Percent.decode (encoded.map plusToSpace) = bytes := by
  have decoded : ∀ {other}, Unescapes encoded other →
      Percent.decode (encoded.map plusToSpace) = other :=
    fun unescapes => decodeOnto_of_unescapes unescapes []
  refine ⟨decoded, ?_⟩
  rintro rfl
  obtain ⟨other, unescapes⟩ := exists_unescapes encoded
  rwa [decoded unescapes]

/-- A text is what encoded bytes stand for, with replacement characters for what is no UTF-8. -/
def StandsFor (encoded : Bytes) (text : String) : Prop :=
  ∃ bytes, Unescapes encoded bytes ∧ Text.decodeUtf8Lossy bytes = text

/-- A text is what encoded bytes stand for exactly if they are decoded to it. -/
theorem standsFor_iff {encoded : Bytes} {text : String} :
    StandsFor encoded text ↔ decodeText encoded = text := by
  simp only [StandsFor, unescapes_iff, exists_eq_left', decodeText]

end Unescaping

section Parts

/-- A part of a query string stands for a pair: the key comes before the first `=`, and without one
the value is empty. An empty part stands for nothing. -/
def Pairs (part : Bytes) (key value : String) : Prop :=
  part ≠ [] ∧ ∃ keyPart valuePart, 0x3D ∉ keyPart ∧
    (part = keyPart ++ 0x3D :: valuePart ∨ part = keyPart ∧ valuePart = []) ∧
      StandsFor keyPart key ∧ StandsFor valuePart value

/-- A part that is not empty stands for the pair that it is decoded to, and for no other. -/
theorem pairs_iff {part : Bytes} {key value : String} :
    Pairs part key value ↔ part ≠ [] ∧ decodePair part = (key, value) := by
  refine and_congr_right fun _ => ?_
  rw [decodePair]
  simp only [standsFor_iff, Prod.mk.injEq]
  constructor
  · rintro ⟨keyPart, valuePart, noSign, rfl | ⟨rfl, rfl⟩, isKey, isValue⟩
    · rw [cutPair_append noSign]
      exact ⟨isKey, isValue⟩
    · rw [cutPair_of_notMem noSign]
      exact ⟨isKey, isValue⟩
  · rintro ⟨isKey, isValue⟩
    by_cases sign : 0x3D ∈ part
    · obtain ⟨keyPart, valuePart, rfl, noSign⟩ := List.eq_append_cons_of_mem sign
      rw [cutPair_append noSign] at isKey isValue
      exact ⟨keyPart, valuePart, noSign, .inl rfl, isKey, isValue⟩
    · rw [cutPair_of_notMem sign] at isKey isValue
      exact ⟨part, [], sign, .inr ⟨rfl, rfl⟩, isKey, isValue⟩

/-- The parts of a query string, between its separators. -/
structure IsCut (query : String) (parts : List Bytes) : Prop where
  present : parts ≠ []
  apart : ∀ part ∈ parts, 0x26 ∉ part
  whole : [0x26].intercalate parts = utf8 query

/-- A query string is cut in one way. -/
theorem isCut_iff {query : String} {parts : List Bytes} :
    IsCut query parts ↔ parts = Text.split 0x26 (utf8 query) := by
  constructor
  · rintro ⟨present, apart, whole⟩
    rw [← whole, Text.split_intercalate present apart]
  · rintro rfl
    exact ⟨Text.split_ne_nil _ _, fun part => Text.notMem_of_mem_split, Text.intercalate_split _ _⟩

end Parts

end Form

section Names

open Form (IsCut Pairs)

/-- The value of a part whose key is a given one. -/
def partValue? (key : String) (part : Bytes) : Option String :=
  if part ≠ [] ∧ (Form.decodePair part).1 = key then some (Form.decodePair part).2 else none

/-- A part gives the value that it stands for together with the key. -/
theorem partValue?_eq_some_iff {key value : String} {part : Bytes} :
    partValue? key part = some value ↔ Pairs part key value := by
  rw [partValue?, Form.pairs_iff, Option.ite_none_right_eq_some, Option.some_inj, Prod.ext_iff,
    and_assoc]

/-- A part gives no value if it stands for no pair with the key. -/
theorem partValue?_eq_none_iff {key : String} {part : Bytes} :
    partValue? key part = none ↔ ∀ value, ¬ Pairs part key value := by
  simp only [Option.eq_none_iff_forall_ne_some, ne_eq, partValue?_eq_some_iff]

/-- The first value of a key comes from the first part that gives one. -/
theorem firstValue?_parts (key : String) (parts : List Bytes) :
    firstValue? key ((parts.filter fun part => !part.isEmpty).map Form.decodePair) =
      parts.findSome? (partValue? key) := by
  induction parts with
  | nil => rfl
  | cons part rest inductionHypothesis =>
    rw [List.findSome?_cons, ← inductionHypothesis, partValue?]
    by_cases empty : part = []
    · simp [empty]
    · rw [List.filter_cons_of_pos (by simpa using empty), List.map_cons, firstValue?]
      by_cases own : (Form.decodePair part).1 = key
      · simp [empty, own]
      · simp [own]

variable {query : String} {parts : List Bytes}

/-- The name in a query string is the value of the first part whose key is `name`. -/
theorem queriedName?_eq_some_iff (cut : IsCut query parts) {value : String} :
    queriedName? (some query) = some value ↔
      ∃ earlier part later, parts = earlier ++ part :: later ∧ Pairs part "name" value ∧
        ∀ other ∈ earlier, ∀ text, ¬ Pairs other "name" text := by
  obtain rfl := Form.isCut_iff.mp cut
  rw [queriedName?, Option.bind_some, Form.decode, firstValue?_parts, List.findSome?_eq_some_iff]
  simp only [partValue?_eq_some_iff, partValue?_eq_none_iff]

/-- A query string has no name if no part has the key `name`. -/
theorem queriedName?_eq_none_iff (cut : IsCut query parts) :
    queriedName? (some query) = none ↔ ∀ part ∈ parts, ∀ text, ¬ Pairs part "name" text := by
  obtain rfl := Form.isCut_iff.mp cut
  rw [queriedName?, Option.bind_some, Form.decode, firstValue?_parts, List.findSome?_eq_none_iff]
  simp only [partValue?_eq_none_iff]

/-- Pairs with other keys are passed over. -/
theorem firstValue?_append {key : String} {front : List (String × String)}
    (others : ∀ pair ∈ front, pair.1 ≠ key) (back : List (String × String)) :
    firstValue? key (front ++ back) = firstValue? key back := by
  induction front with
  | nil => rfl
  | cons pair rest inductionHypothesis =>
    rw [List.cons_append, firstValue?, if_neg (others pair (.head _)),
      inductionHypothesis fun other member => others other (.tail _ member)]

/-- A name behind pairs with other keys is found as it was written, whatever comes behind it. -/
theorem queriedName?_encode_append {before : List (String × String)}
    (others : ∀ pair ∈ before, pair.1 ≠ "name") (text : String) (after : List (String × String)) :
    queriedName? (some (Form.encode (before ++ ("name", text) :: after))) = some text := by
  rw [queriedName?, Option.bind_some, Form.decode_encode, firstValue?_append others, firstValue?,
    if_pos rfl]

/-- What comes behind a name need not be encoded. -/
theorem queriedName?_encode_text {before : List (String × String)}
    (others : ∀ pair ∈ before, pair.1 ≠ "name") (text rest : String) :
    queriedName? (some (Form.encode (before ++ [("name", text)]) ++ "&" ++ rest)) = some text := by
  rw [queriedName?, Option.bind_some, Form.decode_append, Form.decode_encode, List.append_assoc,
    firstValue?_append others, List.singleton_append, firstValue?, if_pos rfl]

/-- A name is parsed exactly if its text is the value that is found. -/
theorem parsedName?_eq_some_iff {query : Option String} {name : Name} :
    parsedName? query = some name ↔ queriedName? query = some name.text := by
  rw [parsedName?, Option.bind_eq_some_iff]
  simp only [Name.ofText?_eq_some_iff, exists_eq_right']

/-- Every query string is read. -/
theorem strictName_eq {Fault : Type} (query : Option String) :
    (strictName query : Except Fault (Option String)) = .ok (queriedName? query) := by
  cases query with
  | none => rfl
  | some text =>
    have read : (Form.read .ok .ok text : Except Fault _) = .ok (Form.decode text) := by
      change (Form.decode text).mapM (fun pair => pure (pair.1, pair.2)) = _
      rw [List.mapM_pure, List.map_id']
      rfl
    rw [strictName, read]
    rfl

/-- A reader that takes what is not read for no name finds the same name. -/
theorem lenientName_eq (Fault : Type) (query : Option String) :
    lenientName Fault query = queriedName? query := by
  rw [lenientName, strictName_eq]

/-- A query string has no valid name: it has none at all, or an empty one, or one with a control
character. -/
def Nameless (query : Option String) : Prop :=
  ∀ text, queriedName? query = some text →
    text.isEmpty = true ∨ ∃ character ∈ text.toList, Text.isControl character = true

/-- A text has a fault as a name if it is empty or has a control character. -/
theorem nameFault?_ne_none_iff {text : String} :
    nameFault? text ≠ none ↔
      text.isEmpty = true ∨ ∃ character ∈ text.toList, Text.isControl character = true := by
  unfold nameFault?
  split
  · next empty => simp [empty]
  · next present =>
    split
    · next control => simpa [present] using control
    · next clean => simpa [present] using clean

/-- A query string has no valid name exactly if no name is parsed. -/
theorem nameless_iff {query : Option String} : Nameless query ↔ parsedName? query = none := by
  constructor
  · intro nameless
    cases parsed : parsedName? query with
    | none => rfl
    | some name =>
      have faulty := nameless name.text (parsedName?_eq_some_iff.mp parsed)
      exact absurd name.valid (nameFault?_ne_none_iff.mpr faulty)
  · intro unparsed text queried
    refine nameFault?_ne_none_iff.mp fun valid => ?_
    have parsed : parsedName? query = some ⟨text, valid⟩ := parsedName?_eq_some_iff.mpr queried
    rw [unparsed] at parsed
    cases parsed

/-- A query string has no valid name exactly if the value that is found is not the text of one. -/
theorem nameless_iff_forall {query : Option String} :
    Nameless query ↔ ∀ name : Name, queriedName? query ≠ some name.text := by
  simp only [nameless_iff, Option.eq_none_iff_forall_ne_some, ne_eq, parsedName?_eq_some_iff]

/-- A valid name in a query string is taken instead of the default. -/
theorem nameOr_of_queried {query : Option String} {name : Name}
    (queried : queriedName? query = some name.text) (fallback : Name) :
    nameOr query fallback = name := by
  rw [nameOr, parsedName?_eq_some_iff.mpr queried, Option.getD_some]

/-- Without a valid name in the query string the default is taken. -/
theorem nameOr_of_nameless {query : Option String} (nameless : Nameless query) (fallback : Name) :
    nameOr query fallback = fallback := by
  rw [nameOr, nameless_iff.mp nameless, Option.getD_none]

end Names

end GatedResolver.Http
