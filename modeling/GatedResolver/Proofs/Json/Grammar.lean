import GatedResolver.Json.Document
import GatedResolver.Proofs.Json.Numerals
import GatedResolver.Proofs.Json.Spelling
import GatedResolver.Proofs.Json.Strings

/-!
# The grammar of documents

`Value.IsSpelled` says which texts spell a value, by the structure of the value and without a reader:
members stand in the order of the text, and one key may come more than once. Whatever a text spells
is read as the tree of that value, with the text behind it left over, if there is room for its
containers (`readTree_isSpelled`). The text behind it must not go on with a number.
-/

namespace GatedResolver.Json

open Text (byte utf8)

section Grammar

/-- White space. -/
def IsBlank (text : Bytes) : Prop :=
  ∀ octet ∈ text, isSpace octet = true

/-- A text with white space in front of a part and behind it. -/
def Padded (part : Bytes → Prop) (text : Bytes) : Prop :=
  ∃ before own behind, IsBlank before ∧ part own ∧ IsBlank behind ∧ text = before ++ (own ++ behind)

/-- A text that spells a number: a numeral that has this value. -/
def SpellsNumber (number : Number) (text : Bytes) : Prop :=
  ∃ numeral : Numeral, numeral.WellFormed ∧ numeral.IsSpelled text ∧ numeral.value = .ok number

mutual
/-- A text that spells a value. -/
def Value.IsSpelled : Value → Bytes → Prop
  | .null, text => text = utf8 "null"
  | .boolean true, text => text = utf8 "true"
  | .boolean false, text => text = utf8 "false"
  | .number value, text => SpellsNumber value text
  | .string value, text => SpellsString value text
  | .array items, text => ∃ blank inner, IsBlank blank ∧ AreSpelledItems true items inner ∧
    text = 0x5B :: (blank ++ (inner ++ [0x5D]))
  | .object members, text => ∃ blank inner, IsBlank blank ∧ AreSpelledMembers true members inner ∧
    text = 0x7B :: (blank ++ (inner ++ [0x7D]))

/-- A text that spells items with commas between them; `first` says that none stands before
them. -/
def AreSpelledItems (first : Bool) : List Value → Bytes → Prop
  | [], text => text = []
  | item :: rest, text => ∃ own others, Padded item.IsSpelled own ∧
    AreSpelledItems false rest others ∧ text = separator first ++ (own ++ others)

/-- A text that spells members with commas between them; `first` says that none stands before
them. -/
def AreSpelledMembers (first : Bool) : List (String × Value) → Bytes → Prop
  | [], text => text = []
  | (key, value) :: rest, text => ∃ name own others, Padded (SpellsString key) name ∧
    Padded value.IsSpelled own ∧ AreSpelledMembers false rest others ∧
    text = separator first ++ (name ++ byte ':' :: (own ++ others))
end

/-- A text that is a document of a value: it spells the value, with white space around it. -/
def Value.IsText (value : Value) (text : Bytes) : Prop :=
  Padded value.IsSpelled text

end Grammar

section Blanks

/-- No text is white space. -/
theorem isBlank_nil : IsBlank [] := by
  simp [IsBlank]

/-- White space behind white space is white space. -/
theorem IsBlank.append {front back : Bytes} (frontBlank : IsBlank front) (backBlank : IsBlank back) :
    IsBlank (front ++ back) := fun octet member =>
  (List.mem_append.mp member).elim (frontBlank octet) (backBlank octet)

/-- White space may stand in front of a part and behind it. -/
theorem Padded.of_blank {part : Bytes → Prop} {before own behind : Bytes} (beforeBlank : IsBlank before)
    (spelled : part own) (behindBlank : IsBlank behind) : Padded part (before ++ (own ++ behind)) :=
  ⟨before, own, behind, beforeBlank, spelled, behindBlank, rfl⟩

/-- White space in front of something else is dropped. -/
theorem IsBlank.dropSpace_append {blank : Bytes} (blanks : IsBlank blank) (text : Bytes) :
    dropSpace (blank ++ text) = dropSpace text :=
  List.dropWhile_append_of_pos blanks

/-- White space is dropped up to a byte that is none. -/
theorem IsBlank.dropSpace_cons {blank : Bytes} (blanks : IsBlank blank) {octet : UInt8}
    (noSpace : isSpace octet = false) (rest : Bytes) :
    dropSpace (blank ++ octet :: rest) = octet :: rest := by
  rw [blanks.dropSpace_append, dropSpace]
  simp [noSpace]

/-- Nothing but white space is dropped. -/
theorem exists_blank (text : Bytes) : ∃ blank, IsBlank blank ∧ text = blank ++ dropSpace text :=
  ⟨text.takeWhile isSpace, fun _ => List.mem_takeWhile_imp, List.takeWhile_append_dropWhile.symm⟩

/-- White space ends a numeral. -/
theorem endsNumeral_blank {blank : Bytes} (blanks : IsBlank blank)
    {text : Bytes} (ends : EndsNumeral text) : EndsNumeral (blank ++ text) := by
  have space : ∀ octet, isSpace octet = true →
      isDigit octet = false ∧ octet ≠ byte '.' ∧ octet ≠ byte 'e' ∧ octet ≠ byte 'E' := by
    intro octet isBlank
    simp only [isSpace, Bool.or_eq_true, beq_iff_eq] at isBlank
    rcases isBlank with ((rfl | rfl) | rfl) | rfl <;> decide
  cases blank with
  | nil => exact ends
  | cons octet rest => exact space octet (blanks octet List.mem_cons_self)

/-- White space in front of a value is passed over. -/
theorem readTree_blank (fuel room : Nat) {blank : Bytes} (blanks : IsBlank blank) (text : Bytes) :
    readTree fuel room (blank ++ text) = readTree fuel room text := by
  cases room <;> unfold readTree <;> rw [blanks.dropSpace_append]

end Blanks

section Starts

/-- A text that starts like a value does not start with white space or a closing bracket. -/
def StartsValue (text : Bytes) : Prop :=
  ∃ head tail, text = head :: tail ∧ isSpace head = false ∧ head ≠ 0x5D

/-- More text behind a value does not change how it starts. -/
theorem StartsValue.append {text : Bytes} (starts : StartsValue text) (rest : Bytes) :
    StartsValue (text ++ rest) := by
  obtain ⟨head, tail, rfl, starts⟩ := starts
  exact ⟨head, tail ++ rest, rfl, starts⟩

/-- White space in front of a value is dropped. -/
theorem StartsValue.dropSpace_append {text : Bytes} (starts : StartsValue text) {blank : Bytes}
    (blanks : IsBlank blank) : dropSpace (blank ++ text) = text := by
  obtain ⟨head, tail, rfl, noSpace, -⟩ := starts
  exact blanks.dropSpace_cons noSpace tail

/-- A text that starts like a value is not empty. -/
theorem StartsValue.length_pos {text : Bytes} (starts : StartsValue text) : 0 < text.length := by
  obtain ⟨head, tail, rfl, -⟩ := starts
  exact Nat.succ_pos _

/-- A byte that numbers start with starts nothing else. -/
theorem startsNumber_apart {octet : UInt8} (starts : startsNumber octet = true) :
    isSpace octet = false ∧ octet ≠ 0x22 ∧ octet ≠ 0x5B ∧ octet ≠ 0x5D ∧ octet ≠ 0x7B := by
  have other : ∀ wrong : UInt8, startsNumber wrong = false → octet ≠ wrong := by
    rintro wrong not rfl
    rw [starts] at not
    cases not
  refine ⟨?_, other _ (by decide), other _ (by decide), other _ (by decide), other _ (by decide)⟩
  simp only [isSpace, Bool.or_eq_false_iff, beq_eq_false_iff_ne]
  exact ⟨⟨⟨other _ (by decide), other _ (by decide)⟩, other _ (by decide)⟩, other _ (by decide)⟩

/-- A numeral starts like a number. -/
theorem Numeral.IsSpelled.starts {numeral : Numeral} {text : Bytes} (spelled : numeral.IsSpelled text)
    (wellFormed : numeral.WellFormed) :
    ∃ head tail, text = head :: tail ∧ startsNumber head = true := by
  obtain ⟨exponent, -, rfl⟩ := spelled
  obtain ⟨head, tail, parts⟩ := List.exists_cons_of_ne_nil wellFormed.whole.1
  have digit : isDigit head = true := wellFormed.whole.2 head (parts ▸ List.mem_cons_self)
  rw [parts]
  by_cases negative : numeral.negative
  · rw [if_pos negative]
    exact ⟨_, _, rfl, rfl⟩
  · rw [if_neg negative]
    exact ⟨_, _, rfl, by simp [startsNumber, digit]⟩

/-- A text that spells a value starts like a value. -/
theorem Value.IsSpelled.starts {value : Value} {text : Bytes} (spelled : value.IsSpelled text) :
    StartsValue text := by
  cases value with
  | null =>
    obtain rfl := spelled
    exact ⟨_, _, rfl, by decide, by decide⟩
  | boolean value =>
    cases value <;> obtain rfl := spelled <;> exact ⟨_, _, rfl, by decide, by decide⟩
  | number value =>
    obtain ⟨numeral, wellFormed, spelled, -⟩ := spelled
    obtain ⟨head, tail, rfl, starts⟩ := spelled.starts wellFormed
    obtain ⟨noSpace, -, -, noBracket, -⟩ := startsNumber_apart starts
    exact ⟨head, tail, rfl, noSpace, noBracket⟩
  | string value =>
    obtain ⟨body, -, rfl⟩ := spelled
    exact ⟨_, _, rfl, by decide, by decide⟩
  | array items =>
    obtain ⟨blank, inner, -, -, rfl⟩ := spelled
    exact ⟨_, _, rfl, by decide, by decide⟩
  | object members =>
    obtain ⟨blank, inner, -, -, rfl⟩ := spelled
    exact ⟨_, _, rfl, by decide, by decide⟩

/-- There are no more items than bytes that spell them. -/
theorem length_le_of_areSpelledItems {first : Bool} {items : List Value} {text : Bytes}
    (spelled : AreSpelledItems first items text) : items.length ≤ text.length := by
  induction items generalizing first text with
  | nil => exact Nat.zero_le _
  | cons item rest inductionHypothesis =>
    obtain ⟨own, others, ⟨before, ownText, behind, -, itemSpelled, -, rfl⟩, restSpelled, rfl⟩ := spelled
    have present := itemSpelled.starts.length_pos
    have fewer := inductionHypothesis restSpelled
    simp only [List.length_append, List.length_cons]
    omega

/-- There are no more members than bytes that spell them. -/
theorem length_le_of_areSpelledMembers {first : Bool} {members : List (String × Value)}
    {text : Bytes} (spelled : AreSpelledMembers first members text) :
    members.length ≤ text.length := by
  induction members generalizing first text with
  | nil => exact Nat.zero_le _
  | cons member rest inductionHypothesis =>
    obtain ⟨name, own, others, -, -, restSpelled, rfl⟩ := spelled
    have fewer := inductionHypothesis restSpelled
    simp only [List.length_append, List.length_cons]
    omega

end Starts

section Reading

/-- A reader reads the texts of a value of up to a size as the tree of that value, with the text
behind it left over. -/
def Value.ReadBy (value : Value) (read : Bytes → Tree × Option Bytes) (size : Nat) : Prop :=
  ∀ {text}, value.IsSpelled text → text.length ≤ size → ∀ {rest}, EndsNumeral rest →
    read (text ++ rest) = (Tree.ofValue value, some rest)

variable {read : Bytes → Tree × Option Bytes} {size fuel : Nat}

/-- Behind an item comes a comma or a closing bracket. -/
theorem endsNumeral_areSpelledItems {items : List Value} {text : Bytes}
    (spelled : AreSpelledItems false items text) (rest : Bytes) :
    EndsNumeral (text ++ 0x5D :: rest) := by
  cases items with
  | nil =>
    obtain rfl := spelled
    exact ⟨by decide, by decide, by decide, by decide⟩
  | cons item items =>
    obtain ⟨own, others, -, -, rfl⟩ := spelled
    exact ⟨by decide, by decide, by decide, by decide⟩

/-- Behind a member comes a comma or a closing brace. -/
theorem endsNumeral_areSpelledMembers {members : List (String × Value)} {text : Bytes}
    (spelled : AreSpelledMembers false members text) (rest : Bytes) :
    EndsNumeral (text ++ 0x7D :: rest) := by
  cases members with
  | nil =>
    obtain rfl := spelled
    exact ⟨by decide, by decide, by decide, by decide⟩
  | cons member members =>
    obtain ⟨name, own, others, -, -, -, rfl⟩ := spelled
    exact ⟨by decide, by decide, by decide, by decide⟩

/-- Items that are spelled are read as their trees. -/
theorem treeItems_isSpelled {item : Value} {items : List Value}
    (reads : ∀ each ∈ item :: items, each.ReadBy read size) (enough : items.length < fuel)
    (done : List Tree) {own behind others : Bytes} (spelled : item.IsSpelled own)
    (blanks : IsBlank behind) (othersSpelled : AreSpelledItems false items others)
    (small : own.length + others.length ≤ size) (rest : Bytes) :
    treeItems read fuel done (own ++ (behind ++ (others ++ 0x5D :: rest))) =
      (.array (done.reverse ++ (item :: items).map Tree.ofValue) none, some rest) := by
  induction items generalizing item fuel done own behind others with
  | nil =>
    obtain ⟨fuel, rfl⟩ : ∃ less, fuel = less + 1 := ⟨fuel - 1, by omega⟩
    have ends := endsNumeral_blank blanks (endsNumeral_areSpelledItems othersSpelled rest)
    obtain rfl := othersSpelled
    unfold treeItems
    rw [reads item List.mem_cons_self spelled (by omega) ends]
    simp only [List.nil_append, blanks.dropSpace_cons (by decide : isSpace 0x5D = false)]
    rw [if_pos (by decide)]
    simp
  | cons next items inductionHypothesis =>
    obtain ⟨fuel, rfl⟩ : ∃ less, fuel = less + 1 := ⟨fuel - 1, by omega⟩
    have ends := endsNumeral_blank blanks (endsNumeral_areSpelledItems othersSpelled rest)
    obtain ⟨padded, following, ⟨before, nextOwn, nextBehind, beforeBlank, nextSpelled, nextBlank, rfl⟩,
      followingSpelled, rfl⟩ := othersSpelled
    simp only [List.length_append] at small
    have apart : separator false ++ (before ++ (nextOwn ++ nextBehind) ++ following) ++ 0x5D :: rest =
        0x2C :: (before ++ (nextOwn ++ (nextBehind ++ (following ++ 0x5D :: rest)))) := by
      simp [separator, byte]
    have starts := nextSpelled.starts.append (nextBehind ++ (following ++ 0x5D :: rest))
    have dropped := starts.dropSpace_append beforeBlank
    obtain ⟨head, tail, text, -, noBracket⟩ := starts
    unfold treeItems
    rw [reads item List.mem_cons_self spelled (by omega) ends, apart]
    simp only [blanks.dropSpace_cons (by decide : isSpace 0x2C = false)]
    rw [if_neg (by decide), if_pos (by decide), dropped, text]
    simp only
    rw [if_neg (by simpa using noBracket), ← text,
      inductionHypothesis (fun each later => reads each (List.mem_cons_of_mem _ later))
        (by simp only [List.length_cons] at enough; omega) (Tree.ofValue item :: done) nextSpelled
        nextBlank followingSpelled (by omega)]
    simp

/-- A member that is spelled, from behind the opening quote of its key, is read up to its value. -/
theorem readMember_isSpelled {key : String} {value : Value} {body gap before own : Bytes}
    (reads : value.ReadBy read size) (skips : ∀ text, read (before ++ text) = read text)
    (named : SpellsContent body (utf8 key)) (gapBlank : IsBlank gap) (spelled : value.IsSpelled own)
    (small : own.length ≤ size) {rest : Bytes} (ends : EndsNumeral rest) :
    scanString ⟨[], none, none⟩ (body ++ 0x22 :: (gap ++ byte ':' :: (before ++ (own ++ rest)))) =
        ⟨⟨.ok key, none⟩, some (gap ++ byte ':' :: (before ++ (own ++ rest)))⟩ ∧
      readAfterKey read (gap ++ byte ':' :: (before ++ (own ++ rest))) =
        (Tree.ofValue value, some rest) := by
  refine ⟨named.scanString_quote _, ?_⟩
  rw [readAfterKey, gapBlank.dropSpace_cons (by decide)]
  exact (skips _).trans (reads spelled small ends)

/-- Members that are spelled, from behind the opening quote of the first key, are read as their
trees. -/
theorem treeMembers_isSpelled {key : String} {value : Value} {members : List (String × Value)}
    (reads : ∀ each ∈ (key, value) :: members, each.2.ReadBy read size)
    (skips : ∀ {blank}, IsBlank blank → ∀ text, read (blank ++ text) = read text)
    (enough : members.length < fuel) (done : List (Token String × Tree))
    {body gap before own behind others : Bytes} (named : SpellsContent body (utf8 key))
    (gapBlank : IsBlank gap) (beforeBlank : IsBlank before) (spelled : value.IsSpelled own)
    (blanks : IsBlank behind) (othersSpelled : AreSpelledMembers false members others)
    (small : own.length + others.length ≤ size) (rest : Bytes) :
    treeMembers read fuel done (body ++ 0x22 :: (gap ++ byte ':' :: (before ++
        (own ++ (behind ++ (others ++ 0x7D :: rest)))))) =
      (.object (done.reverse ++ ((key, value) :: members).map Tree.ofMember) none, some rest) := by
  have ends := endsNumeral_blank blanks (endsNumeral_areSpelledMembers othersSpelled rest)
  obtain ⟨keyRead, valueRead⟩ := readMember_isSpelled (reads (key, value) List.mem_cons_self)
    (skips beforeBlank) named gapBlank spelled (by omega) ends
  induction members generalizing key value fuel done body gap before own behind others with
  | nil =>
    obtain ⟨fuel, rfl⟩ : ∃ less, fuel = less + 1 := ⟨fuel - 1, by omega⟩
    obtain rfl := othersSpelled
    unfold treeMembers
    rw [keyRead]
    simp only
    rw [valueRead]
    simp only [List.nil_append, blanks.dropSpace_cons (by decide : isSpace 0x7D = false)]
    rw [if_pos (by decide)]
    simp [Tree.ofMember]
  | cons next members inductionHypothesis =>
    obtain ⟨nextKey, nextValue⟩ := next
    obtain ⟨fuel, rfl⟩ : ∃ less, fuel = less + 1 := ⟨fuel - 1, by omega⟩
    obtain ⟨name, padded, following, ⟨nameBefore, quoted, nameBehind, nameBeforeBlank,
      ⟨nextBody, nextNamed, rfl⟩, nameBehindBlank, rfl⟩, ⟨nextBefore, nextOwn, nextBehind,
      nextBeforeBlank, nextSpelled, nextBehindBlank, rfl⟩, followingSpelled, rfl⟩ := othersSpelled
    simp only [List.length_append, List.length_cons] at small
    have apart : separator false ++ (nameBefore ++ ((0x22 :: (nextBody ++ [0x22])) ++ nameBehind) ++
          byte ':' :: ((nextBefore ++ (nextOwn ++ nextBehind)) ++ following)) ++ 0x7D :: rest =
        0x2C :: (nameBefore ++ 0x22 :: (nextBody ++ 0x22 :: (nameBehind ++ byte ':' ::
          (nextBefore ++ (nextOwn ++ (nextBehind ++ (following ++ 0x7D :: rest))))))) := by
      simp [separator, byte]
    have nextEnds := endsNumeral_blank nextBehindBlank
      (endsNumeral_areSpelledMembers followingSpelled rest)
    have othersReads : ∀ each ∈ (nextKey, nextValue) :: members, each.2.ReadBy read size :=
      fun each later => reads each (List.mem_cons_of_mem _ later)
    obtain ⟨nextKeyRead, nextValueRead⟩ := readMember_isSpelled
      (othersReads (nextKey, nextValue) List.mem_cons_self) (skips nextBeforeBlank) nextNamed
      nameBehindBlank nextSpelled (by omega) nextEnds
    unfold treeMembers
    rw [keyRead]
    simp only
    rw [valueRead]
    simp only
    rw [apart]
    simp only [blanks.dropSpace_cons (by decide : isSpace 0x2C = false)]
    rw [if_neg (by decide), if_pos (by decide),
      nameBeforeBlank.dropSpace_cons (by decide : isSpace 0x22 = false)]
    simp only
    rw [if_pos (by decide), inductionHypothesis othersReads
      (by simp only [List.length_cons] at enough; omega) _ nextNamed nameBehindBlank nextBeforeBlank
      nextSpelled nextBehindBlank followingSpelled (by omega) nextEnds nextKeyRead nextValueRead]
    simp [Tree.ofMember]

/-- What starts no container is a scalar. -/
theorem readTree_scalar (fuel room : Nat) {octet : UInt8} (rest : Bytes)
    (noSpace : isSpace octet = false) (noArray : octet ≠ 0x5B) (noObject : octet ≠ 0x7B) :
    readTree fuel room (octet :: rest) = scanScalar octet rest := by
  have kept : dropSpace (octet :: rest) = octet :: rest := by simp [dropSpace, noSpace]
  unfold readTree
  rw [kept]
  simp [noArray, noObject]

/-- The items of an array are read from the first one on. -/
theorem readTree_items {blank own : Bytes} (room : Nat) (blanks : IsBlank blank)
    (starts : StartsValue own) :
    readTree fuel (room + 1) (0x5B :: (blank ++ own)) =
      treeItems (readTree fuel room) fuel [] own := by
  have dropped := starts.dropSpace_append blanks
  obtain ⟨head, tail, rfl, -, noBracket⟩ := starts
  have bracket : dropSpace (0x5B :: (blank ++ head :: tail)) = 0x5B :: (blank ++ head :: tail) := rfl
  conv => lhs; unfold readTree
  rw [bracket]
  simp only
  rw [if_pos (by decide), if_pos (by decide), dropped]
  simp only
  rw [if_neg (by simpa using noBracket)]

/-- The members of an object are read from behind the quote of the first one. -/
theorem readTree_members {blank : Bytes} (fuel room : Nat) (blanks : IsBlank blank) (text : Bytes) :
    readTree fuel (room + 1) (byte '\x7b' :: (blank ++ 0x22 :: text)) =
      treeMembers (readTree fuel room) fuel [] text := by
  have brace : ∀ text, dropSpace (byte '\x7b' :: text) = byte '\x7b' :: text := fun _ => rfl
  conv => lhs; unfold readTree
  rw [brace]
  simp only
  rw [if_pos (by decide), if_neg (by decide),
    blanks.dropSpace_cons (by decide : isSpace 0x22 = false)]
  simp only
  rw [if_neg (by decide), if_pos (by decide)]

/-- A container without parts is read as such, whatever white space is in it. -/
theorem readTree_empty {blank : Bytes} (fuel room : Nat) (blanks : IsBlank blank) (rest : Bytes) :
    readTree fuel (room + 1) (0x5B :: (blank ++ 0x5D :: rest)) = (.array [] none, some rest) ∧
      readTree fuel (room + 1) (0x7B :: (blank ++ 0x7D :: rest)) = (.object [] none, some rest) := by
  have bracket : ∀ text, dropSpace (0x5B :: text) = 0x5B :: text := fun _ => rfl
  have brace : ∀ text, dropSpace (0x7B :: text) = 0x7B :: text := fun _ => rfl
  constructor <;> unfold readTree <;> simp only [bracket, brace]
  · rw [if_pos (by decide), if_pos (by decide), blanks.dropSpace_cons (by decide)]
    rfl
  · rw [if_pos (by decide), if_neg (by decide), blanks.dropSpace_cons (by decide)]
    rfl

/-- An array is read if its items are. -/
theorem readBy_array {room : Nat} {items : List Value}
    (reads : ∀ item ∈ items, item.ReadBy (readTree fuel room) fuel) :
    (Value.array items).ReadBy (readTree fuel (room + 1)) fuel := by
  rintro text ⟨blank, inner, blanks, spelled, rfl⟩ small rest -
  have few := length_le_of_areSpelledItems spelled
  rw [ofValue_array]
  cases items with
  | nil =>
    obtain rfl := spelled
    have empty := (readTree_empty fuel room blanks rest).1
    simpa using empty
  | cons item items =>
    obtain ⟨padded, others, ⟨before, own, behind, beforeBlank, itemSpelled, behindBlank, rfl⟩,
      othersSpelled, rfl⟩ := spelled
    simp only [separator, if_true, List.nil_append, List.length_append, List.length_cons] at small few
    have parts : (0x5B :: (blank ++ (separator true ++ ((before ++ (own ++ behind)) ++ others) ++
          [0x5D]))) ++ rest =
        0x5B :: ((blank ++ before) ++ (own ++ (behind ++ (others ++ 0x5D :: rest)))) := by
      simp [separator]
    rw [parts, readTree_items room (blanks.append beforeBlank) (itemSpelled.starts.append _),
      treeItems_isSpelled reads (by omega) [] itemSpelled behindBlank othersSpelled (by omega)]
    rfl

/-- An object is read if the values of its members are. -/
theorem readBy_object {room : Nat} {members : List (String × Value)}
    (reads : ∀ member ∈ members, member.2.ReadBy (readTree fuel room) fuel) :
    (Value.object members).ReadBy (readTree fuel (room + 1)) fuel := by
  rintro text ⟨blank, inner, blanks, spelled, rfl⟩ small rest -
  have few := length_le_of_areSpelledMembers spelled
  rw [ofValue_object]
  rcases members with _ | ⟨⟨key, value⟩, members⟩
  · obtain rfl := spelled
    have empty := (readTree_empty fuel room blanks rest).2
    simpa using empty
  · obtain ⟨name, padded, others, ⟨nameBefore, quoted, gap, nameBeforeBlank, ⟨body, named, rfl⟩,
      gapBlank, rfl⟩, ⟨before, own, behind, beforeBlank, ownSpelled, behindBlank, rfl⟩,
      othersSpelled, rfl⟩ := spelled
    simp only [separator, if_true, List.nil_append, List.length_append, List.length_cons] at small few
    have parts : (0x7B :: (blank ++ (separator true ++ ((nameBefore ++ ((0x22 :: (body ++ [0x22])) ++
          gap)) ++ byte ':' :: ((before ++ (own ++ behind)) ++ others)) ++ [0x7D]))) ++ rest =
        byte '\x7b' :: ((blank ++ nameBefore) ++ 0x22 :: (body ++ 0x22 :: (gap ++ byte ':' ::
          (before ++ (own ++ (behind ++ (others ++ 0x7D :: rest))))))) := by
      simp [separator, byte]
    rw [parts, readTree_members fuel room (blanks.append nameBeforeBlank), treeMembers_isSpelled reads
      (fun blanks => readTree_blank fuel room blanks) (by omega) [] named gapBlank beforeBlank
      ownSpelled behindBlank othersSpelled (by omega)]
    rfl

/-- A text that spells a value is read as the tree of that value, where there is room for its
containers. -/
theorem readTree_isSpelled (value : Value) {room : Nat} (shallow : value.depth ≤ room) :
    value.ReadBy (readTree fuel room) fuel := by
  induction value using Value.induction generalizing room with
  | null =>
    rintro text rfl - rest -
    exact readTree_scalar fuel room _ (by decide) (by decide) (by decide)
  | boolean value =>
    intro text spelled _ rest _
    cases value <;> obtain rfl := spelled <;>
      exact readTree_scalar fuel room _ (by decide) (by decide) (by decide)
  | number value =>
    rintro text ⟨numeral, wellFormed, spelled, worth⟩ - rest ends
    have scanned : scanNumber (text ++ rest) = ⟨⟨.ok value, none⟩, some rest⟩ := by
      rw [scanNumber, Numeral.scanNumeral_isSpelled ends wellFormed spelled, ← worth]
    obtain ⟨head, tail, rfl, starts⟩ := spelled.starts wellFormed
    obtain ⟨noSpace, noQuote, noArray, -, noObject⟩ := startsNumber_apart starts
    rw [List.cons_append] at scanned ⊢
    rw [readTree_scalar fuel room _ noSpace noArray noObject]
    simp [scanScalar, noQuote, starts, scanned, Tree.ofValue]
  | string value =>
    rintro text ⟨body, spells, rfl⟩ - rest -
    rw [List.cons_append, List.append_assoc, readTree_scalar fuel room _ (by decide) (by decide)
      (by decide)]
    simp [scanScalar, spells.scanString_quote, Tree.ofValue]
  | array items inductionHypothesis =>
    obtain _ | room := room
    · simp [Value.depth] at shallow
    · exact readBy_array fun item belongs =>
        inductionHypothesis item belongs (depth_array_le_iff.mp shallow item belongs)
  | object members inductionHypothesis =>
    obtain _ | room := room
    · simp [Value.depth] at shallow
    · exact readBy_object fun member belongs =>
        inductionHypothesis member belongs (depth_object_le_iff.mp shallow member belongs)

end Reading

/-- A document of a value is not empty. -/
theorem Value.IsText.length_pos {value : Value} {text : Bytes} (isText : value.IsText text) :
    0 < text.length := by
  obtain ⟨before, own, behind, -, spelled, -, rfl⟩ := isText
  have present := spelled.starts.length_pos
  simp only [List.length_append]
  omega

/-- A document of a value is cut into the tree of that value, with nothing behind it. -/
theorem Value.IsText.ofText_eq {value : Value} {text : Bytes} (isText : value.IsText text)
    (shallow : value.depth ≤ depthLimit) :
    Document.ofText text = ⟨Tree.ofValue value, false⟩ := by
  obtain ⟨before, own, behind, beforeBlank, ownSpelled, behindBlank, rfl⟩ := isText
  have small : own.length ≤ (before ++ (own ++ behind)).length := by
    simp only [List.length_append]
    omega
  have ends : EndsNumeral behind := by
    have atEnd : EndsNumeral (behind ++ []) := endsNumeral_blank behindBlank trivial
    rwa [List.append_nil] at atEnd
  have nothing : dropSpace behind = [] := by
    have dropped := behindBlank.dropSpace_append []
    rwa [List.append_nil] at dropped
  rw [Document.ofText, readTree_blank _ _ beforeBlank,
    readTree_isSpelled value shallow ownSpelled small ends]
  simp only [nothing]
  rfl

/-- A document of a value is read as the tree of that value is. -/
theorem Value.IsText.readWith_eq {α : Type} {value : Value} {text : Bytes} (isText : value.IsText text)
    (shallow : value.depth ≤ depthLimit) (read : Tree → Except Fault α) :
    (Document.ofText text).readWith read = read (Tree.ofValue value) := by
  rw [isText.ofText_eq shallow, Document.readWith]
  cases read (Tree.ofValue value) <;> rfl

end GatedResolver.Json
