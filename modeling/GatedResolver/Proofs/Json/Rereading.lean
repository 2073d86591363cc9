import GatedResolver.Proofs.Json.Rearrangement
import GatedResolver.Proofs.Json.Records

/-!
# Typed values read back through untyped ones

A reader of values of any kind sorts the keys of what it reads. A typed value that goes through an
untyped one is therefore read from a document with sorted keys. `Rereads` says that a decoder takes
a value of its type out of a JSON value in both forms. Records are reread because their fields are
*orderly*: members with different keys may be taken in any order.
-/

namespace GatedResolver.Json

variable {α β : Type}

/-- A decoder takes a result out of a JSON value, as it stands and with its keys sorted. -/
structure Rereads (decoder : Decoder α) (value : Value) (result : α) : Prop where
  plain : Reads decoder value result
  sorted : Reads decoder (sortKeys value) result

/-- A typed value comes back from the compact text of a JSON value, directly and through the untyped
value of that text. -/
def RoundTrips (decoder : Decoder α) (value : Value) (result : α) : Prop :=
  decoder.decode value.compact = .ok result ∧
    ∃ untyped, Value.ofText value.compact = .ok untyped ∧ decoder.decodeValue untyped = .ok result

/-- What comes back from the text of an integral value is read from the tree of the value. -/
theorem RoundTrips.decoder_ofValue {decoder : Decoder α} {value : Value} {result : α}
    (roundTrips : RoundTrips decoder value result) (integral : value.isIntegral = true)
    (shallow : value.depth ≤ depthLimit) : decoder .text (Tree.ofValue value) = .ok result := by
  have decoded := roundTrips.1
  rwa [Decoder.decode, (isText_compact integral).readWith_eq shallow] at decoded

/-- What is reread from an integral, open value comes back from its text in both ways. -/
theorem Rereads.roundTrips {decoder : Decoder α} {value : Value} {result : α}
    (rereads : Rereads decoder value result) (integral : value.isIntegral = true)
    (opened : value.isOpen = true) (shallow : value.depth ≤ depthLimit) :
    RoundTrips decoder value result :=
  ⟨rereads.plain.decode_compact integral shallow, sortKeys value,
    valueOfText_compact integral opened shallow, rereads.sorted .value⟩

section Values

variable {decoder : Decoder α} {value : Value} {result : α}

/-- What is read from a value that sorting leaves alone is reread from it. -/
theorem Reads.rereads (reads : Reads decoder value result) (still : sortKeys value = value) :
    Rereads decoder value result :=
  ⟨reads, still.symm ▸ reads⟩

/-- A text is reread as that text. -/
theorem rereads_text (text : String) : Rereads Decoder.text (.string text) text :=
  (reads_text text).rereads rfl

/-- A 32-bit word is reread as that word. -/
theorem rereads_uint32 (word : UInt32) : Rereads Decoder.uint32 (.ofUInt32 word) word :=
  (reads_uint32 word).rereads rfl

/-- A signed 64-bit word is reread as that word. -/
theorem rereads_int64 (word : Int64) : Rereads Decoder.int64 (.ofInt64 word) word :=
  (reads_int64 word).rereads rfl

/-- The length of a text is reread as that length. -/
theorem rereads_size (word : UInt64) : Rereads Decoder.size (.ofUInt64 word) word := by
  refine Reads.rereads (fun source => ?_) rfl
  have bound := word.toNat_lt
  have within : Decoder.rangeSize.least ≤ word.toNat ∧ word.toNat ≤ Decoder.rangeSize.greatest := by
    simp only [Decoder.rangeSize]
    omega
  have read : Decoder.integerIn Decoder.rangeSize source (Tree.ofValue (.ofUInt64 word)) =
      .ok word.toNat := if_pos within
  rw [Decoder.size, Decoder.map, read]
  simp [Except.map]

/-- A canonical, open value is reread by a reader of any values as that value. -/
theorem rereads_any (canonical : value.Canonical) (opened : value.isOpen = true) :
    Rereads Decoder.any value value := by
  have reads := reads_any opened
  rw [canonical.sortKeys_eq] at reads
  exact reads.rereads canonical.sortKeys_eq

/-- An array of one type is reread as the list of its items. -/
theorem rereads_list {encode : α → Value}
    (rereads : ∀ item, Rereads decoder (encode item) item) (items : List α) :
    Rereads (Decoder.list decoder) (.array (items.map encode)) items where
  plain := reads_list (fun item => (rereads item).plain) items
  sorted := by
    rw [sortKeys, sortKeysItems_eq, List.reverse_nil, List.nil_append, List.map_map]
    exact reads_list (fun item => (rereads item).sorted) items

/-- What is reread and accepted by a rule is reread by both together. -/
theorem Rereads.check {rule : α → Except String β} {accepted : β}
    (rereads : Rereads decoder value result) (accepts : rule result = .ok accepted) :
    Rereads (Decoder.check rule decoder) value accepted :=
  ⟨rereads.plain.check accepts, rereads.sorted.check accepts⟩

/-- An optional part is reread where it may be absent. -/
theorem rereads_nullable {encode : α → Value} (rereads : ∀ part, Rereads decoder (encode part) part)
    (present : ∀ part, encode part ≠ .null) (part : Option α) :
    Rereads (Decoder.nullable decoder) (.ofOption encode part) part := by
  cases part with
  | none => exact ⟨fun _ => rfl, fun _ => rfl⟩
  | some part =>
    refine ⟨(rereads part).plain.nullable (present part), (rereads part).sorted.nullable ?_⟩
    have notNull := present part
    intro sorted
    cases written : encode part <;> simp_all [sortKeys]

end Values

namespace Fields

/-- Fields that take members with different keys in any order. Whether a key is known depends on
nothing but the key. -/
structure Orderly (fields : Fields α) : Prop where
  ignores : ∀ {key source tree draft}, fields.take key source tree draft = none →
    ∀ otherTree otherDraft, fields.take key source otherTree otherDraft = none
  swap : ∀ {source first second firstTree secondTree draft middle last}, first ≠ second →
    fields.take first source firstTree draft = some (.ok middle) →
    fields.take second source secondTree middle = some (.ok last) →
    ∃ between, fields.take second source secondTree draft = some (.ok between) ∧
      fields.take first source firstTree between = some (.ok last)

/-- One field alone is orderly. -/
theorem orderly_one {name : String} {decoder : Decoder α} {absent : Except Fault α}
    {replacement : Option α} : (one name decoder absent replacement).Orderly where
  ignores {key source tree draft} ignored otherTree otherDraft := by
    simp only [one] at ignored ⊢
    by_cases own : key = name
    · rw [if_pos own] at ignored
      cases draft <;> cases ignored
    · rw [if_neg own]
  swap {source first second firstTree secondTree draft middle last} differ firstTaken secondTaken := by
    have own : ∀ {key tree before after},
        (one name decoder absent replacement).take key source tree before = some (.ok after) →
          key = name := by
      intro key tree before after taken
      by_contra other
      simp [one, other] at taken
    exact absurd ((own firstTaken).trans (own secondTaken).symm) differ

variable {left : Fields α} {right : Fields β}

/-- Members are taken by the first of two records if that knows their keys, and by the second
otherwise. -/
theorem take_both_eq_ok {key : String} {source : Source} {tree : Tree}
    {draft changed : (left.both right).Draft}
    (taken : (left.both right).take key source tree draft = some (.ok changed)) :
    (left.take key source tree draft.1 = some (.ok changed.1) ∧ changed.2 = draft.2) ∨
    left.take key source tree draft.1 = none ∧
      right.take key source tree draft.2 = some (.ok changed.2) ∧ changed.1 = draft.1 := by
  simp only [both] at taken
  split at taken
  · next step stepTaken =>
    obtain ⟨inner, rfl, rfl⟩ := ok_of_map (Option.some.inj taken)
    exact .inl ⟨stepTaken, rfl⟩
  · next skipped =>
    split at taken
    · next step stepTaken =>
      obtain ⟨inner, rfl, rfl⟩ := ok_of_map (Option.some.inj taken)
      exact .inr ⟨skipped, stepTaken, rfl⟩
    · cases taken

/-- What the first of two records takes, both take. -/
theorem take_both_left {key : String} {source : Source} {tree : Tree} {draft changed : left.Draft}
    (taken : left.take key source tree draft = some (.ok changed)) (other : right.Draft) :
    (left.both right).take key source tree (draft, other) = some (.ok (changed, other)) := by
  simp only [both, taken]
  rfl

/-- What only the second of two records takes, both take. -/
theorem take_both_right {key : String} {source : Source} {tree : Tree} {other : left.Draft}
    (ignored : left.take key source tree other = none) {draft changed : right.Draft}
    (taken : right.take key source tree draft = some (.ok changed)) :
    (left.both right).take key source tree (other, draft) = some (.ok (other, changed)) := by
  simp only [both, ignored, taken]
  rfl

/-- Two orderly records are orderly together. -/
theorem Orderly.both (leftOrderly : left.Orderly) (rightOrderly : right.Orderly) :
    (left.both right).Orderly where
  ignores {key source tree draft} ignored otherTree otherDraft := by
    simp only [Fields.both] at ignored ⊢
    split at ignored
    · cases ignored
    · next leftIgnored =>
      split at ignored
      · cases ignored
      · next rightIgnored =>
        rw [leftOrderly.ignores leftIgnored, rightOrderly.ignores rightIgnored]
  swap {source first second firstTree secondTree draft middle last} differ firstTaken
      secondTaken := by
    obtain ⟨leftDraft, rightDraft⟩ := draft
    obtain ⟨leftMiddle, rightMiddle⟩ := middle
    obtain ⟨leftLast, rightLast⟩ := last
    rcases take_both_eq_ok firstTaken with ⟨firstLeft, rfl⟩ | ⟨firstIgnored, firstRight, rfl⟩ <;>
      rcases take_both_eq_ok secondTaken with ⟨secondLeft, rfl⟩ | ⟨secondIgnored, secondRight, rfl⟩
    · obtain ⟨between, secondFirst, firstSecond⟩ := leftOrderly.swap differ firstLeft secondLeft
      exact ⟨_, take_both_left secondFirst _, take_both_left firstSecond _⟩
    · exact ⟨_, take_both_right (leftOrderly.ignores secondIgnored _ _) secondRight,
        take_both_left firstLeft _⟩
    · exact ⟨_, take_both_left secondLeft _,
        take_both_right (leftOrderly.ignores firstIgnored _ _) firstRight⟩
    · obtain ⟨between, secondFirst, firstSecond⟩ := rightOrderly.swap differ firstRight secondRight
      exact ⟨_, take_both_right secondIgnored secondFirst, take_both_right firstIgnored firstSecond⟩

/-- What is made of an orderly record is orderly. -/
theorem Orderly.map (orderly : left.Orderly) (make : α → β) : (left.map make).Orderly :=
  ⟨orderly.ignores, orderly.swap⟩

/-- Orderly fields take members with different keys in any order. -/
theorem Takes.perm (orderly : left.Orderly) {source : Source} {draft last : left.Draft}
    {members order : List (String × Value)} (permuted : members.Perm order)
    (distinct : (members.map Prod.fst).Nodup) (takes : Takes left source draft members last) :
    Takes left source draft order last := by
  induction permuted generalizing draft with
  | nil => exact takes
  | cons member permuted inductionHypothesis =>
    obtain ⟨-, others⟩ := List.nodup_cons.mp distinct
    cases takes with
    | cons taken rest => exact .cons taken (inductionHypothesis others rest)
  | swap first second rest =>
    have differ : second.1 ≠ first.1 := by
      intro same
      simp [same] at distinct
    cases takes with
    | cons secondTaken takes =>
      cases takes with
      | cons firstTaken others =>
        obtain ⟨between, firstEarlier, secondLater⟩ := orderly.swap differ secondTaken firstTaken
        exact .cons firstEarlier (.cons secondLater others)
  | trans before after beforeTakes afterTakes =>
    exact afterTakes ((before.map Prod.fst).nodup_iff.mp distinct) (beforeTakes distinct takes)

/-- The members with the keys in their values sorted. -/
def sortedValues (members : List (String × Value)) : List (String × Value) :=
  members.map fun member => (member.1, sortKeys member.2)

/-- The fields make a record of members, as they stand and with the keys in their values
sorted. -/
structure Rereads (fields : Fields α) (members : List (String × Value)) (result : α) : Prop where
  plain : fields.Reads members result
  sorted : fields.Reads (sortedValues members) result

/-- A field that an object must have is reread from the member with its name. -/
theorem rereads_required (name : String) {decoder : Decoder α} {value : Value} {result : α}
    (rereads : Json.Rereads decoder value result) :
    Rereads (required name decoder) [(name, value)] result :=
  ⟨reads_one rereads.plain, reads_one rereads.sorted⟩

/-- A field that an object may lack is reread from the member with its name, which may be
`null`. -/
theorem rereads_optional (name : String) {decoder : Decoder α} {encode : α → Value}
    (rereads : ∀ part, Json.Rereads decoder (encode part) part)
    (present : ∀ part, encode part ≠ .null) (part : Option α) :
    Rereads (optional name decoder) [(name, .ofOption encode part)] part :=
  ⟨reads_one (rereads_nullable rereads present part).plain,
    reads_one (rereads_nullable rereads present part).sorted⟩

/-- A record with one more field in front is reread from the member of the field and the members of
the record, if none of these has the name of the field. -/
theorem Rereads.behind {decoder : Decoder α} {value : Value} {members : List (String × Value)}
    {result : α} {others : β} (rereads : Rereads right members others) (name : String)
    (first : Json.Rereads decoder value result) (different : name ∉ members.map Prod.fst) :
    Rereads ((required name decoder).both right) ((name, value) :: members) (result, others) where
  plain := (reads_one first.plain).both rereads.plain (ignores_of_notMem different _ _ _)
  sorted := (reads_one first.sorted).both rereads.sorted
    (ignores_of_notMem (by simpa [sortedValues] using different) _ _ _)

/-- What is made of a record is made of the one that is reread. -/
theorem Rereads.map {members : List (String × Value)} {result : α}
    (rereads : Rereads left members result) (make : α → β) :
    Rereads (left.map make) members (make result) :=
  ⟨rereads.plain.map make, rereads.sorted.map make⟩

/-- A record with orderly fields is reread from an object with its members. -/
theorem Rereads.record {members : List (String × Value)} {result : α}
    (rereads : Rereads left members result) (orderly : left.Orderly)
    (distinct : (members.map Prod.fst).Nodup) (name : String) :
    Json.Rereads (Decoder.record name left) (.object members) result where
  plain := rereads.plain.record name
  sorted := by
    have placed : (sortedValues members).Perm (sortKeysMembers [] members) :=
      (perm_sortKeysMembers [] members distinct).symm
    have sortedDistinct : ((sortedValues members).map Prod.fst).Nodup := by
      simpa [sortedValues, Function.comp_def] using distinct
    refine Reads.record (fun source => ?_) name
    obtain ⟨draft, taken, done⟩ := rereads.sorted source
    exact ⟨draft, taken.perm orderly placed sortedDistinct, done⟩

end Fields

end GatedResolver.Json
