import GatedResolver.Json.Decode
import GatedResolver.Proofs.Success
import Mathlib.Logic.Nontrivial.Basic

/-!
# Fields of a record

A `Slot` is the place of a field in a record: it says how to see the field in a draft and in the
finished record. Whatever else the record has, a successful read takes the field from the part of
the tree that is its own, and gives it its default if there is no such part. A field that cannot be
left out fits a slot with any default, so a record that was read has a part for it.
-/

namespace GatedResolver.Json

variable {α β : Type}

/-- A tree of the wrong kind is not read. -/
theorem mismatch_ne_ok (wanted : Wanted) (tree : Tree) (result : α) :
    mismatch wanted tree ≠ .ok result := by
  intro read
  obtain ⟨found, -, refused⟩ := ok_of_bind read
  cases refused

/-- The first member with a key. -/
def findMember? (name : String) : List (Token String × Tree) → Option Tree
  | [] => none
  | (token, tree) :: rest =>
    match token.read with
    | .ok key => if key = name then some tree else findMember? name rest
    | .error _ => findMember? name rest

/-- The part of a tree that belongs to a field of a record: in an object the member with the name
of the field, in an array the item at its place. -/
def Tree.part? (name : String) (place : Nat) : Tree → Option Tree
  | .object members _ => findMember? name members
  | .array items _ => items[place]?
  | _ => none

/-- A value comes from a part of a tree, or is the default if there is none. -/
def Decoder.Fills (decoder : Decoder β) (source : Source) (default value : β) :
    Option Tree → Prop
  | some part => decoder source part = .ok value
  | none => value = default

/-- The place of a field with a default in a record. -/
structure Fields.Slot (fields : Fields α) (source : Source) (name : String) (place : Nat)
    (decoder : Decoder β) (default : β) (get : α → β) where
  /-- The field in a draft. -/
  held : fields.Draft → Option β
  held_blank : held fields.blank = none
  held_of_other : ∀ {key tree draft changed}, key ≠ name →
    fields.take key source tree draft = some (.ok changed) → held changed = held draft
  held_of_own : ∀ {tree draft changed}, fields.take name source tree draft = some (.ok changed) →
    held draft = none ∧ ∃ value, decoder source tree = .ok value ∧ held changed = some value
  take_own : ∀ {tree draft}, fields.take name source tree draft ≠ none
  get_of_finish : ∀ {draft result}, fields.finish draft = .ok result →
    get result = (held draft).getD default
  fills_of_fromItems : ∀ {ended index items result rest},
    fields.fromItems source ended index items = .ok (result, rest) →
      decoder.Fills source default (get result) items[place]?

namespace Fields.Slot

variable {fields : Fields α} {right : Fields β} {γ : Type} {source : Source} {name other : String}
  {place : Nat} {default : γ} {get : α → γ}

/-- A field that is a record of its own, if nothing but the default stands in for it. -/
def one (source : Source) (name : String) (decoder : Decoder α) (default : α)
    {absent : Except Fault α} {replacement : Option α}
    (absentAgrees : ∀ value, absent = .ok value → value = default)
    (replacementAgrees : ∀ value, replacement = some value → value = default) :
    Slot (Fields.one name decoder absent replacement) source name 0 decoder default id where
  held draft := draft
  held_blank := rfl
  held_of_other differ taken := by
    simp only [Fields.one, if_neg differ] at taken
    cases taken
  held_of_own {tree draft changed} taken := by
    simp only [Fields.one, if_pos] at taken
    cases draft with
    | some value => cases taken
    | none =>
      obtain ⟨value, read, rfl⟩ := ok_of_map (Option.some.inj taken)
      exact ⟨rfl, value, read, rfl⟩
  take_own {tree draft} := by
    simp only [Fields.one, if_pos]
    cases draft <;> exact Option.some_ne_none _
  get_of_finish {draft result} finished := by
    cases draft with
    | none => exact absentAgrees result finished
    | some value =>
      cases finished
      rfl
  fills_of_fromItems {ended index items result rest} read := by
    cases items with
    | nil =>
      obtain ⟨-, -, replaced⟩ := ok_of_bind read
      cases replacement with
      | none => cases replaced
      | some value =>
        cases replaced
        exact replacementAgrees _ rfl
    | cons item others =>
      obtain ⟨value, itemRead, same⟩ := ok_of_map read
      cases same
      exact itemRead

/-- A field with a default that is a record of its own. -/
def only (source : Source) (name : String) (decoder : Decoder α) (default : α) :
    Slot (Fields.defaulted name decoder default) source name 0 decoder default id :=
  .one source name decoder default (fun _ same => (Except.ok.inj same).symm)
    fun _ same => (Option.some.inj same).symm

/-- A field that a record cannot lack. It has any default, as nothing ever stands in for it. -/
def required (source : Source) (name : String) (decoder : Decoder α) (default : α) :
    Slot (Fields.required name decoder) source name 0 decoder default id :=
  .one source name decoder default nofun nofun

/-- A field of the first of two records. -/
def left {decoder : Decoder γ} (slot : Slot fields source name place decoder default get)
    (right : Fields β) :
    Slot (fields.both right) source name place decoder default fun result => get result.1 where
  held draft := slot.held draft.1
  held_blank := slot.held_blank
  held_of_other {key tree draft changed} differ taken := by
    simp only [both] at taken
    split at taken
    · next step stepTaken =>
      obtain ⟨inner, rfl, rfl⟩ := ok_of_map (Option.some.inj taken)
      exact slot.held_of_other differ stepTaken
    · split at taken
      · obtain ⟨-, -, rfl⟩ := ok_of_map (Option.some.inj taken)
        rfl
      · cases taken
  held_of_own {tree draft changed} taken := by
    simp only [both] at taken
    split at taken
    · next step stepTaken =>
      obtain ⟨inner, rfl, rfl⟩ := ok_of_map (Option.some.inj taken)
      exact slot.held_of_own stepTaken
    · next skipped => exact absurd skipped slot.take_own
  take_own {tree draft} := by
    simp only [both]
    split
    · exact Option.some_ne_none _
    · next skipped => exact absurd skipped slot.take_own
  get_of_finish {draft result} finished := by
    obtain ⟨leftResult, leftFinished, finished⟩ := ok_of_bind finished
    obtain ⟨rightResult, -, finished⟩ := ok_of_bind finished
    cases finished
    exact slot.get_of_finish leftFinished
  fills_of_fromItems {ended index items result rest} read := by
    obtain ⟨⟨leftResult, behind⟩, leftRead, read⟩ := ok_of_bind read
    obtain ⟨⟨rightResult, behindBoth⟩, -, read⟩ := ok_of_bind read
    cases read
    exact slot.fills_of_fromItems leftRead

/-- A field behind another one. -/
def behind {decoder : Decoder γ} {get : β → γ} {first : Decoder α} {absent : Except Fault α}
    {replacement : Option α} (differ : name ≠ other)
    (slot : Slot right source name place decoder default get) :
    Slot ((Fields.one other first absent replacement).both right) source name (place + 1) decoder
      default fun result => get result.2 where
  held draft := slot.held draft.2
  held_blank := slot.held_blank
  held_of_other {key tree draft changed} keyDiffers taken := by
    simp only [both] at taken
    split at taken
    · obtain ⟨-, -, rfl⟩ := ok_of_map (Option.some.inj taken)
      rfl
    · split at taken
      · next step stepTaken =>
        obtain ⟨inner, rfl, rfl⟩ := ok_of_map (Option.some.inj taken)
        exact slot.held_of_other keyDiffers stepTaken
      · cases taken
  held_of_own {tree draft changed} taken := by
    have ignored : (Fields.one other first absent replacement).take name source tree draft.1 =
        none := if_neg differ
    simp only [both, ignored] at taken
    split at taken
    · next step stepTaken =>
      obtain ⟨inner, rfl, rfl⟩ := ok_of_map (Option.some.inj taken)
      exact slot.held_of_own stepTaken
    · cases taken
  take_own {tree draft} := by
    have ignored : (Fields.one other first absent replacement).take name source tree draft.1 =
        none := if_neg differ
    simp only [both, ignored]
    split
    · exact Option.some_ne_none _
    · next skipped => exact absurd skipped slot.take_own
  get_of_finish {draft result} finished := by
    obtain ⟨leftResult, -, finished⟩ := ok_of_bind finished
    obtain ⟨rightResult, rightFinished, finished⟩ := ok_of_bind finished
    cases finished
    exact slot.get_of_finish rightFinished
  fills_of_fromItems {ended index items result rest} read := by
    obtain ⟨⟨leftResult, behindFirst⟩, leftRead, read⟩ := ok_of_bind read
    obtain ⟨⟨rightResult, behindBoth⟩, rightRead, read⟩ := ok_of_bind read
    cases read
    cases items with
    | nil =>
      obtain ⟨-, -, replaced⟩ := ok_of_bind leftRead
      cases replacement with
      | none => cases replaced
      | some value =>
        cases replaced
        exact slot.fills_of_fromItems rightRead
    | cons item others =>
      obtain ⟨value, -, same⟩ := ok_of_map leftRead
      cases same
      exact slot.fills_of_fromItems rightRead

/-- A field of what is made of a record. -/
def map {decoder : Decoder γ} {make : α → β} {getMade : β → γ}
    (slot : Slot fields source name place decoder default get)
    (agrees : ∀ result, getMade (make result) = get result) :
    Slot (fields.map make) source name place decoder default getMade where
  held := slot.held
  held_blank := slot.held_blank
  held_of_other := slot.held_of_other
  held_of_own := slot.held_of_own
  take_own := slot.take_own
  get_of_finish {draft result} finished := by
    obtain ⟨inner, innerFinished, rfl⟩ := ok_of_map finished
    rw [agrees, slot.get_of_finish innerFinished]
  fills_of_fromItems {ended index items result rest} read := by
    obtain ⟨⟨inner, behind⟩, innerRead, same⟩ := ok_of_map read
    cases same
    rw [agrees]
    exact slot.fills_of_fromItems innerRead

variable {decoder : Decoder γ} (slot : Slot fields source name place decoder default get)
include slot

/-- Taking members puts the first one with the name of the field into its slot. -/
theorem held_of_takeMembers {members : List (Token String × Tree)} {draft last : fields.Draft}
    (took : takeMembers (fun key => fields.take key source) draft members = .ok last) :
    match findMember? name members with
    | some part =>
      slot.held draft = none ∧ ∃ value, decoder source part = .ok value ∧
        slot.held last = some value
    | none => slot.held last = slot.held draft := by
  induction members generalizing draft with
  | nil =>
    cases took
    rfl
  | cons member rest inductionHypothesis =>
    obtain ⟨token, tree⟩ := member
    unfold takeMembers at took
    unfold findMember?
    cases keyRead : token.read with
    | error fault =>
      rw [keyRead] at took
      cases took
    | ok key =>
      simp only [keyRead] at took ⊢
      split at took
      · cases took
      · next changed taken =>
        have later := inductionHypothesis took
        by_cases own : key = name
        · subst own
          obtain ⟨free, value, read, filled⟩ := slot.held_of_own taken
          rw [if_pos rfl]
          refine ⟨free, value, read, ?_⟩
          -- A second member with the same key would have found the slot filled.
          split at later
          · rw [filled] at later
            cases later.1
          · rw [later, filled]
        · rw [if_neg own]
          rwa [slot.held_of_other own taken] at later
      · next ignored =>
        have other : key ≠ name := fun own => slot.take_own (own ▸ ignored)
        split at took
        · cases took
        · rw [if_neg other]
          exact inductionHypothesis took

/-- A record that was read has in a field what its own part of the tree says. -/
theorem fills_of_record {label : String} {tree : Tree} {result : α}
    (read : Decoder.record label fields source tree = .ok result) :
    decoder.Fills source default (get result) (tree.part? name place) := by
  unfold Decoder.record at read
  split at read
  · next members breach =>
    obtain ⟨draft, took, read⟩ := ok_of_bind read
    obtain ⟨-, -, finished⟩ := ok_of_bind read
    have held := slot.held_of_takeMembers took
    rw [slot.get_of_finish finished]
    change decoder.Fills source default _ (findMember? name members)
    split at held
    · next part found =>
      obtain ⟨-, value, partRead, filled⟩ := held
      rw [found, filled]
      exact partRead
    · next missing =>
      rw [missing, held, slot.held_blank]
      rfl
  · next items breach =>
    obtain ⟨⟨value, leftover⟩, itemsRead, read⟩ := ok_of_bind read
    obtain ⟨-, -, read⟩ := ok_of_bind read
    cases read
    exact slot.fills_of_fromItems itemsRead
  · exact absurd read (mismatch_ne_ok _ _ _)

omit slot in
/-- A record that was read has a part for a field that fits a slot whatever the default is. -/
theorem part_of_record [Nontrivial γ]
    (slots : ∀ default, Slot fields source name place decoder default get) {label : String}
    {tree : Tree} {result : α} (read : Decoder.record label fields source tree = .ok result) :
    ∃ part, tree.part? name place = some part ∧ decoder source part = .ok (get result) := by
  obtain ⟨other, differs⟩ := exists_ne (get result)
  have filled := (slots other).fills_of_record read
  cases found : tree.part? name place with
  | some part =>
    rw [found] at filled
    exact ⟨part, rfl, filled⟩
  | none =>
    rw [found] at filled
    exact absurd filled.symm differs

end Fields.Slot

end GatedResolver.Json
