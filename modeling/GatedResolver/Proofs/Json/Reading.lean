import GatedResolver.Proofs.Json.Grammar
import GatedResolver.Proofs.Success

/-!
# Trees in order come from the grammar

A reader is *faithful* if it finds a tree in order only where a text begins with one that spells a
value, and the tree is that of the value. Readers of scalars, of items and of members are, and so is
the reader of trees, by induction on the room for containers (`faithful_readTree`). So a document is
found in order, with nothing behind its value, only if it is the text of a value
(`exists_isText_of_check`).
-/

namespace GatedResolver.Json

open Text (byte utf8)

section Leading

/-- A text begins with white space and a text that spells a value, and the rest follows. -/
def Value.Leads (value : Value) (text rest : Bytes) : Prop :=
  ∃ before own, IsBlank before ∧ value.IsSpelled own ∧ text = before ++ (own ++ rest)

/-- White space may stand in front of a text. -/
theorem Value.Leads.of_dropSpace {value : Value} {text rest : Bytes}
    (leads : value.Leads (dropSpace text) rest) : value.Leads text rest := by
  obtain ⟨blank, blanks, parts⟩ := exists_blank text
  obtain ⟨before, own, beforeBlank, spelled, same⟩ := leads
  refine ⟨blank ++ before, own, blanks.append beforeBlank, spelled, ?_⟩
  rw [parts, same, List.append_assoc]

/-- A text that spells a value leads to whatever follows it. -/
theorem Value.IsSpelled.leads {value : Value} {own : Bytes} (spelled : value.IsSpelled own)
    (rest : Bytes) : value.Leads (own ++ rest) rest :=
  ⟨[], own, isBlank_nil, spelled, rfl⟩

/-- A reader finds a tree in order only where a text spells a value with room for its containers,
and the tree is that of the value. -/
def Faithful (read : Bytes → Tree × Option Bytes) (room : Nat) : Prop :=
  ∀ text, (read text).1.check = .ok () → ∃ value rest, value.Leads text rest ∧
    value.depth ≤ room ∧ read text = (Tree.ofValue value, some rest)

/-- What a faithful reader finds in order is the tree of a value. -/
theorem Faithful.leads {read : Bytes → Tree × Option Bytes} {room : Nat}
    (faithful : Faithful read room) {text behind : Bytes} {tree : Tree}
    (found : read text = (tree, some behind)) (checked : tree.check = .ok ()) :
    ∃ value : Value, value.Leads text behind ∧ value.depth ≤ room ∧ tree = Tree.ofValue value := by
  obtain ⟨value, rest, leads, shallow, same⟩ := faithful text (by rwa [found])
  rw [found] at same
  cases same
  exact ⟨value, leads, shallow, rfl⟩

end Leading

section Scalars

variable {octet : UInt8} {text : Bytes}

/-- The letters of a word are cut off. -/
theorem eq_of_scanWord {word rest : Bytes} (scanned : scanWord word text = .ok rest) :
    text = word ++ rest := by
  induction word generalizing text with
  | nil =>
    cases scanned
    rfl
  | cons letter word inductionHypothesis =>
    cases text with
    | nil => cases scanned
    | cons octet text =>
      unfold scanWord at scanned
      split at scanned
      · next same => rw [eq_of_beq same, inductionHypothesis scanned, List.cons_append]
      · cases scanned

/-- A number that is read is spelled by the text in front of what is left. -/
theorem spells_of_scanNumber {number : Number} (read : (scanNumber text).token.read = .ok number) :
    ∃ own rest, SpellsNumber number own ∧ text = own ++ rest ∧
      scanNumber text = ⟨⟨.ok number, none⟩, some rest⟩ := by
  unfold scanNumber at read ⊢
  split at read
  · next numeral rest scanned =>
    obtain ⟨wellFormed, own, spelled, same⟩ := Numeral.isSpelled_of_scanNumeral scanned
    have worth : numeral.value = .ok number := read
    exact ⟨own, rest, ⟨numeral, wellFormed, spelled, worth⟩, same, by rw [worth]⟩
  · cases read

/-- A word that is found in order is spelled. -/
theorem spells_of_word {value : Value} {head : UInt8} {letters : Bytes} {isNull : Bool}
    (starts : (octet == head) = true) (spelled : value.IsSpelled (head :: letters))
    (flat : value.depth = 0)
    (checked : (match scanWord letters text with
      | .ok behind => (Tree.ofValue value, some behind)
      | .error fault => (.brokenWord isNull fault, none)).1.check = .ok ()) :
    ∃ own rest, value.IsSpelled own ∧ value.depth = 0 ∧ octet :: text = own ++ rest ∧
      (match scanWord letters text with
        | .ok behind => (Tree.ofValue value, some behind)
        | .error fault => (.brokenWord isNull fault, none)) = (Tree.ofValue value, some rest) := by
  cases scanned : scanWord letters text with
  | error fault =>
    rw [scanned] at checked
    cases checked
  | ok rest =>
    refine ⟨head :: letters, rest, spelled, flat, ?_, rfl⟩
    rw [eq_of_beq starts, eq_of_scanWord scanned, List.cons_append]

/-- A scalar that is found in order is spelled. -/
theorem spells_of_scanScalar (checked : (scanScalar octet text).1.check = .ok ()) :
    ∃ value own rest, value.IsSpelled own ∧ value.depth = 0 ∧ octet :: text = own ++ rest ∧
      scanScalar octet text = (Tree.ofValue value, some rest) := by
  unfold scanScalar at checked ⊢
  dsimp only at checked ⊢
  by_cases quote : (octet == 0x22) = true
  · rw [if_pos quote] at checked ⊢
    obtain ⟨value, read, -⟩ := ok_of_map checked
    obtain ⟨-, body, rest, rfl, ⟨content, spells, whole⟩, scanned⟩ := reads_of_scanString read
    obtain rfl : utf8 value = content := whole
    exact ⟨.string value, 0x22 :: (body ++ [0x22]), rest, ⟨body, spells, rfl⟩, rfl,
      by simp [eq_of_beq quote], by rw [scanned]; rfl⟩
  rw [if_neg quote] at checked ⊢
  by_cases starts : startsNumber octet = true
  · rw [if_pos starts] at checked ⊢
    obtain ⟨number, read, -⟩ := ok_of_map checked
    obtain ⟨own, rest, spells, same, scanned⟩ := spells_of_scanNumber read
    exact ⟨.number number, own, rest, spells, rfl, same, by rw [scanned]; rfl⟩
  rw [if_neg starts] at checked ⊢
  by_cases isNull : (octet == 0x6E) = true
  · rw [if_pos isNull] at checked ⊢
    exact ⟨.null, spells_of_word isNull rfl rfl checked⟩
  rw [if_neg isNull] at checked ⊢
  by_cases isTrue : (octet == 0x74) = true
  · rw [if_pos isTrue] at checked ⊢
    exact ⟨.boolean true, spells_of_word isTrue rfl rfl checked⟩
  rw [if_neg isTrue] at checked ⊢
  by_cases isFalse : (octet == 0x66) = true
  · rw [if_pos isFalse] at checked ⊢
    exact ⟨.boolean false, spells_of_word isFalse rfl rfl checked⟩
  rw [if_neg isFalse] at checked
  cases checked

end Scalars

section Containers

variable {read : Bytes → Tree × Option Bytes} {room fuel : Nat} {text : Bytes}

/-- What follows a value behind white space stands behind the padded text of the value. -/
theorem Value.Leads.padded {value : Value} {behind : Bytes} (leads : value.Leads text behind)
    {octet : UInt8} {rest : Bytes} (next : dropSpace behind = octet :: rest) :
    ∃ own, Padded value.IsSpelled own ∧ text = own ++ octet :: rest := by
  obtain ⟨before, own, beforeBlank, spelled, rfl⟩ := leads
  obtain ⟨blank, blanks, parts⟩ := exists_blank behind
  refine ⟨_, .of_blank beforeBlank spelled blanks, ?_⟩
  rw [parts, next]
  simp

/-- Items behind a comma and white space follow other items. -/
theorem AreSpelledItems.behind_comma {item : Value} {items : List Value} {blank inner : Bytes}
    (spelled : AreSpelledItems true (item :: items) inner) (blanks : IsBlank blank) :
    AreSpelledItems false (item :: items) (0x2C :: (blank ++ inner)) := by
  obtain ⟨padded, others, ⟨before, own, behind, beforeBlank, itemSpelled, behindBlank, rfl⟩,
    othersSpelled, rfl⟩ := spelled
  exact ⟨_, others, .of_blank (blanks.append beforeBlank) itemSpelled behindBlank, othersSpelled,
    by simp [separator, byte]⟩

/-- Members behind a comma and white space follow other members. -/
theorem AreSpelledMembers.behind_comma {member : String × Value} {members : List (String × Value)}
    {blank inner : Bytes} (spelled : AreSpelledMembers true (member :: members) inner)
    (blanks : IsBlank blank) :
    AreSpelledMembers false (member :: members) (0x2C :: (blank ++ inner)) := by
  obtain ⟨name, padded, others, ⟨before, own, behind, beforeBlank, named, behindBlank, rfl⟩,
    valueSpelled, othersSpelled, rfl⟩ := spelled
  exact ⟨_, padded, others, .of_blank (blanks.append beforeBlank) named behindBlank, valueSpelled,
    othersSpelled, by simp [separator, byte]⟩

/-- Items that are found in order are spelled up to the closing bracket. -/
theorem spells_of_treeItems (faithful : Faithful read room) {done : List Tree}
    (checked : (treeItems read fuel done text).1.check = .ok ()) :
    ∃ item items inner rest, AreSpelledItems true (item :: items) inner ∧
      (∀ each ∈ item :: items, each.depth ≤ room) ∧ text = inner ++ 0x5D :: rest ∧
      treeItems read fuel done text =
        (.array (done.reverse ++ (item :: items).map Tree.ofValue) none, some rest) := by
  fun_induction treeItems read fuel done text with
  | case4 fuel done text tree behind found octet rest next bracket =>
    have each := (check_array_iff.mp checked).1
    obtain ⟨item, leads, shallow, rfl⟩ := faithful.leads found (each _ (by simp))
    obtain ⟨own, padded, rfl⟩ := leads.padded next
    refine ⟨item, [], own, rest, ⟨own, [], padded, rfl, by simp [separator]⟩, by simpa using shallow,
      by rw [eq_of_beq bracket], by simp⟩
  | case7 fuel done text tree behind found octet rest next notBracket comma head tail start notEnd
      inductionHypothesis =>
    -- what is read behind the comma says that this item is in order, too
    obtain ⟨item, items, inner, last, spelled, shallow, same, result⟩ := inductionHypothesis checked
    rw [result] at checked
    have each := (check_array_iff.mp checked).1
    obtain ⟨first, leads, firstShallow, rfl⟩ := faithful.leads found (each _ (by simp))
    obtain ⟨own, padded, rfl⟩ := leads.padded next
    obtain ⟨blank, blanks, parts⟩ := exists_blank rest
    refine ⟨first, item :: items, own ++ 0x2C :: (blank ++ inner), last,
      ⟨own, _, padded, spelled.behind_comma blanks, by simp [separator]⟩,
      List.forall_mem_cons.mpr ⟨firstShallow, shallow⟩, ?_, by rw [result]; simp⟩
    rw [parts, start, same, eq_of_beq comma]
    simp
  -- in all other cases the array breaks off
  | _ => cases (check_array_iff.mp checked).2

/-- A member that is found in order, from behind the opening quote of its key, is spelled up to what
follows its value. -/
theorem spells_of_member (faithful : Faithful read room) {key : Token String} {tree : Tree}
    {behindKey behind : Bytes} (named : (∃ name, key.read = .ok name) ∧ tree.check = .ok ())
    (scanned : scanString ⟨[], none, none⟩ text = ⟨key, some behindKey⟩)
    (found : readAfterKey read behindKey = (tree, some behind)) {octet : UInt8} {rest : Bytes}
    (next : dropSpace behind = octet :: rest) :
    ∃ (member : String × Value) (name own : Bytes), Padded (SpellsString member.1) name ∧
      Padded member.2.IsSpelled own ∧ member.2.depth ≤ room ∧
      0x22 :: text = name ++ byte ':' :: (own ++ octet :: rest) ∧
      (key, tree) = Tree.ofMember member := by
  obtain ⟨⟨name, keyRead⟩, checked⟩ := named
  have read : (scanString ⟨[], none, none⟩ text).token.read = .ok name := by
    rw [scanned]
    exact keyRead
  obtain ⟨-, body, others, rfl, ⟨content, spells, whole⟩, same⟩ := reads_of_scanString read
  obtain rfl : utf8 name = content := whole
  rw [scanned] at same
  cases same
  unfold readAfterKey at found
  split at found
  · next after colon =>
    obtain ⟨value, leads, shallow, rfl⟩ := faithful.leads found checked
    obtain ⟨own, padded, rfl⟩ := leads.padded next
    obtain ⟨gap, gapBlank, parts⟩ := exists_blank behindKey
    have quoted : SpellsString name (0x22 :: (body ++ [0x22])) := ⟨body, spells, rfl⟩
    refine ⟨(name, value), _, own, .of_blank isBlank_nil quoted gapBlank, padded, shallow, ?_, rfl⟩
    rw [parts, colon]
    simp [byte]
  · cases found
  · cases found

/-- Members that are found in order, from behind the opening quote of the first key, are spelled up
to the closing brace. -/
theorem spells_of_treeMembers (faithful : Faithful read room) {done : List (Token String × Tree)}
    (checked : (treeMembers read fuel done text).1.check = .ok ()) :
    ∃ member members inner rest, AreSpelledMembers true (member :: members) inner ∧
      (∀ each ∈ member :: members, each.2.depth ≤ room) ∧ 0x22 :: text = inner ++ 0x7D :: rest ∧
      treeMembers read fuel done text =
        (.object (done.reverse ++ (member :: members).map Tree.ofMember) none, some rest) := by
  fun_induction treeMembers read fuel done text with
  | case2 fuel done text key scanned =>
    -- the object closes here, but its last key does not
    have unfinished : Tree.check (.broken (.unfinished .object)) = .ok () :=
      ((check_object_iff.mp checked).1 (key, _) (by simp)).2
    cases unfinished
  | case5 fuel done text key behindKey scanned tree behind found octet rest next brace =>
    have each := (check_object_iff.mp checked).1
    obtain ⟨member, name, own, named, padded, shallow, same, made⟩ :=
      spells_of_member faithful (each (key, tree) (by simp)) scanned found next
    refine ⟨member, [], _, rest, ⟨name, own, [], named, padded, rfl, rfl⟩, by simpa using shallow,
      ?_, by simp [made]⟩
    rw [same, eq_of_beq brace]
    simp [separator]
  | case7 fuel done text key behindKey scanned tree behind found octet rest next notBrace comma head
      following start quote inductionHypothesis =>
    obtain ⟨member, members, inner, last, spelled, shallow, others, result⟩ :=
      inductionHypothesis checked
    rw [result] at checked
    have each := (check_object_iff.mp checked).1
    obtain ⟨first, name, own, named, padded, firstShallow, same, made⟩ :=
      spells_of_member faithful (each (key, tree) (by simp)) scanned found next
    obtain ⟨blank, blanks, parts⟩ := exists_blank rest
    refine ⟨first, member :: members, _, last,
      ⟨name, own, _, named, padded, spelled.behind_comma blanks, rfl⟩,
      List.forall_mem_cons.mpr ⟨firstShallow, shallow⟩, ?_, by rw [result]; simp [made]⟩
    rw [same, parts, start, eq_of_beq quote, others, eq_of_beq comma]
    simp [separator]
  -- in all other cases the object breaks off
  | _ => cases (check_object_iff.mp checked).2

/-- An array that is found in order is spelled. -/
theorem leads_of_readTree_array (faithful : Faithful (readTree fuel room) room)
    (checked : (readTree fuel (room + 1) (0x5B :: text)).1.check = .ok ()) :
    ∃ value rest, value.Leads (0x5B :: text) rest ∧ value.depth ≤ room + 1 ∧
      readTree fuel (room + 1) (0x5B :: text) = (Tree.ofValue value, some rest) := by
  have bracket : dropSpace (0x5B :: text) = 0x5B :: text := rfl
  obtain ⟨blank, blanks, parts⟩ := exists_blank text
  unfold readTree at checked ⊢
  simp only [bracket] at checked ⊢
  rw [if_pos (by decide), if_pos (by decide)] at checked ⊢
  cases start : dropSpace text with
  | nil =>
    rw [start] at checked
    cases checked
  | cons head tail =>
    rw [start] at checked parts
    dsimp only at checked ⊢
    by_cases ends : (head == 0x5D) = true
    · have spelled : (Value.array []).IsSpelled (0x5B :: (blank ++ ([] ++ [0x5D]))) :=
        ⟨blank, [], blanks, rfl, rfl⟩
      refine ⟨_, tail, ⟨[], _, isBlank_nil, spelled, ?_⟩, by simp [Value.depth, depthOfItems], ?_⟩
      · rw [parts, eq_of_beq ends]
        simp
      · rw [if_pos ends, ofValue_array]
        rfl
    · rw [if_neg ends] at checked ⊢
      obtain ⟨item, items, inner, rest, itemsSpelled, shallow, same, result⟩ :=
        spells_of_treeItems faithful checked
      have spelled : (Value.array (item :: items)).IsSpelled (0x5B :: (blank ++ (inner ++ [0x5D]))) :=
        ⟨blank, inner, blanks, itemsSpelled, rfl⟩
      refine ⟨_, rest, ⟨[], _, isBlank_nil, spelled, ?_⟩, depth_array_le_iff.mpr shallow, ?_⟩
      · rw [parts, same]
        simp
      · rw [result, ofValue_array]
        rfl

/-- An object that is found in order is spelled. -/
theorem leads_of_readTree_object (faithful : Faithful (readTree fuel room) room)
    (checked : (readTree fuel (room + 1) (0x7B :: text)).1.check = .ok ()) :
    ∃ value rest, value.Leads (0x7B :: text) rest ∧ value.depth ≤ room + 1 ∧
      readTree fuel (room + 1) (0x7B :: text) = (Tree.ofValue value, some rest) := by
  have brace : dropSpace (0x7B :: text) = 0x7B :: text := rfl
  obtain ⟨blank, blanks, parts⟩ := exists_blank text
  unfold readTree at checked ⊢
  simp only [brace] at checked ⊢
  rw [if_pos (by decide), if_neg (by decide)] at checked ⊢
  cases start : dropSpace text with
  | nil =>
    rw [start] at checked
    cases checked
  | cons head tail =>
    rw [start] at checked parts
    dsimp only at checked ⊢
    by_cases ends : (head == 0x7D) = true
    · have spelled : (Value.object []).IsSpelled (0x7B :: (blank ++ ([] ++ [0x7D]))) :=
        ⟨blank, [], blanks, rfl, rfl⟩
      refine ⟨_, tail, ⟨[], _, isBlank_nil, spelled, ?_⟩, by simp [Value.depth, depthOfMembers], ?_⟩
      · rw [parts, eq_of_beq ends]
        simp
      · rw [if_pos ends, ofValue_object]
        rfl
    rw [if_neg ends] at checked ⊢
    by_cases quote : (head == 0x22) = true
    · rw [if_pos quote] at checked ⊢
      obtain ⟨member, members, inner, rest, membersSpelled, shallow, same, result⟩ :=
        spells_of_treeMembers faithful checked
      have spelled : (Value.object (member :: members)).IsSpelled
          (0x7B :: (blank ++ (inner ++ [0x7D]))) := ⟨blank, inner, blanks, membersSpelled, rfl⟩
      refine ⟨_, rest, ⟨[], _, isBlank_nil, spelled, ?_⟩, depth_object_le_iff.mpr shallow, ?_⟩
      · rw [parts, eq_of_beq quote, same]
        simp
      · rw [result, ofValue_object]
        rfl
    · rw [if_neg quote] at checked
      cases checked

end Containers

section Documents

/-- White space in front of a text is passed over. -/
theorem readTree_dropSpace (fuel room : Nat) (text : Bytes) :
    readTree fuel room (dropSpace text) = readTree fuel room text := by
  obtain ⟨blank, blanks, parts⟩ := exists_blank text
  conv => rhs; rw [parts, readTree_blank fuel room blanks]

/-- The reader of trees is faithful if it is where a container starts. -/
theorem faithful_of_containers {fuel room : Nat}
    (containers : ∀ {octet text}, octet = 0x5B ∨ octet = 0x7B →
      (readTree fuel room (octet :: text)).1.check = .ok () →
      ∃ value rest, value.Leads (octet :: text) rest ∧ value.depth ≤ room ∧
        readTree fuel room (octet :: text) = (Tree.ofValue value, some rest)) :
    Faithful (readTree fuel room) room := by
  intro text checked
  rw [← readTree_dropSpace] at checked ⊢
  obtain ⟨value, rest, leads, shallow, result⟩ : ∃ value rest,
      value.Leads (dropSpace text) rest ∧ value.depth ≤ room ∧
        readTree fuel room (dropSpace text) = (Tree.ofValue value, some rest) := by
    cases start : dropSpace text with
    | nil =>
      rw [start] at checked
      cases room <;> cases checked
    | cons octet behind =>
      rw [start] at checked
      have noSpace : isSpace octet = false := by
        have dropped := List.head?_dropWhile_not isSpace text
        rw [dropSpace] at start
        rwa [start] at dropped
      by_cases container : octet = 0x5B ∨ octet = 0x7B
      · exact containers container checked
      · rw [not_or] at container
        rw [readTree_scalar fuel room behind noSpace container.1 container.2] at checked ⊢
        obtain ⟨value, own, rest, spelled, flat, same, result⟩ := spells_of_scanScalar checked
        exact ⟨value, rest, same ▸ spelled.leads rest, by omega, result⟩
  exact ⟨value, rest, leads.of_dropSpace, shallow, result⟩

/-- The reader of trees is faithful, whatever room there is for containers. -/
theorem faithful_readTree (fuel room : Nat) : Faithful (readTree fuel room) room := by
  induction room with
  | zero =>
    refine faithful_of_containers fun {octet text} container checked => ?_
    have noSpace : isSpace octet = false := by rcases container with rfl | rfl <;> decide
    have kept : dropSpace (octet :: text) = octet :: text := by simp [dropSpace, noSpace]
    have opens : (octet == 0x5B || octet == 0x7B) = true := by
      rcases container with rfl | rfl <;> decide
    unfold readTree at checked
    rw [kept] at checked
    dsimp only at checked
    rw [if_pos opens] at checked
    split at checked <;> cases checked
  | succ room inductionHypothesis =>
    refine faithful_of_containers fun container checked => ?_
    rcases container with rfl | rfl
    · exact leads_of_readTree_array inductionHypothesis checked
    · exact leads_of_readTree_object inductionHypothesis checked

/-- A document that is found in order, with nothing behind it, is the text of a value for whose
containers there is room. -/
theorem exists_isText_of_check {text : Bytes} (checked : (Document.ofText text).tree.check = .ok ())
    (nothing : (Document.ofText text).trailing = false) :
    ∃ value : Value, value.IsText text ∧ value.depth ≤ depthLimit ∧
      Document.ofText text = ⟨Tree.ofValue value, false⟩ := by
  cases result : readTree text.length depthLimit text with
  | mk tree behind =>
    cases behind with
    | none =>
      have found : (readTree text.length depthLimit text).1.check = .ok () := by
        simpa [Document.ofText, result] using checked
      obtain ⟨value, rest, -, -, same⟩ := faithful_readTree _ _ text found
      cases result.symm.trans same
    | some behind =>
      simp only [Document.ofText, result, Bool.not_eq_false', List.isEmpty_iff] at checked nothing
      obtain ⟨value, ⟨before, own, beforeBlank, spelled, parts⟩, shallow, rfl⟩ :=
        (faithful_readTree _ _).leads result checked
      obtain ⟨blank, blanks, same⟩ := exists_blank behind
      rw [nothing, List.append_nil] at same
      subst same
      exact ⟨value, parts ▸ .of_blank beforeBlank spelled blanks, shallow,
        by simp [Document.ofText, result, nothing]⟩

end Documents

end GatedResolver.Json
