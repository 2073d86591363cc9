import GatedResolver.Proofs.Json.Floats
import GatedResolver.Proofs.Json.Grammar
import GatedResolver.Proofs.Json.Layouts

/-!
# Documents read back

A value is *legible* if each of its numbers is read from its own text as that number; integers
always are. The text of a legible value in any layout is cut into the tree of that value, as long
as it is not nested too deep. The text of a part is read whatever stands behind it, provided that
it does not go on with a number.
-/

namespace GatedResolver.Json

open Text (byte utf8)

section Legible

/-- Whether a number is read from its own text as that number. -/
def Number.isReread (number : Number) : Bool :=
  match (scanNumber (utf8 number.text)).token.read with
  | .ok read => read == number
  | .error _ => false

/-- A value that is no number which is read as another one. -/
def isReread : Value → Bool
  | .number value => value.isReread
  | _ => true

/-- A value all of whose numbers are read from their own texts. -/
def Value.isLegible (value : Value) : Bool :=
  value.every isReread

/-- The text of a number is cut off where it ends. -/
theorem scanNumber_text (number : Number) {rest : Bytes} (ends : EndsNumeral rest) :
    scanNumber (utf8 number.text ++ rest) = ⟨⟨number.numeral.value, none⟩, some rest⟩ := by
  rw [scanNumber, Number.utf8_text, Numeral.scanNumeral_spelled ends number.wellFormed_numeral]

/-- A number is read from its own text if it is the value of its numeral. -/
theorem isReread_iff {number : Number} :
    number.isReread = true ↔ number.numeral.value = .ok number := by
  have scanned := @scanNumber_text number [] trivial
  rw [List.append_nil] at scanned
  rw [Number.isReread, scanned]
  cases number.numeral.value <;> simp

/-- An integer is read from its own text. -/
theorem isReread_integer {value : Int} (within : leastInteger ≤ value ∧ value < integerLimit) :
    (Number.integer value within).isReread = true :=
  isReread_iff.mpr (value_numeral within)

/-- What holds of all parts of a value holds of them in a weaker form. -/
theorem every_of_imp {test other : Value → Bool} (weaker : ∀ value, test value = true →
    other value = true) {value : Value} (all : value.every test = true) :
    value.every other = true := by
  induction value using Value.induction with
  | null => exact weaker _ all
  | boolean value => exact weaker _ all
  | number value => exact weaker _ all
  | string value => exact weaker _ all
  | array items inductionHypothesis =>
    obtain ⟨here, each⟩ := every_array.mp all
    exact every_array.mpr ⟨weaker _ here, fun item belongs =>
      inductionHypothesis item belongs (each item belongs)⟩
  | object members inductionHypothesis =>
    obtain ⟨here, each⟩ := every_object.mp all
    exact every_object.mpr ⟨weaker _ here, fun member belongs =>
      inductionHypothesis member belongs (each member belongs)⟩

/-- An integral value is legible. -/
theorem isLegible_of_isIntegral {value : Value} (integral : value.isIntegral = true) :
    value.isLegible = true := by
  refine every_of_imp (fun value whole => ?_) integral
  cases value with
  | number number =>
    cases number with
    | integer value within => exact isReread_integer within
    | float value finite => cases whole
  | _ => rfl

end Legible

section Starts

/-- The text of a number starts like a number. -/
theorem utf8_text_cons (number : Number) :
    ∃ head tail, utf8 number.text = head :: tail ∧ startsNumber head = true := by
  rw [number.utf8_text]
  exact number.numeral.isSpelled_spelled.starts number.wellFormed_numeral

/-- The compact text of a value starts like a value. -/
theorem startsValue_spelled (value : Value) : StartsValue value.spelled := by
  cases value with
  | null => exact ⟨_, _, rfl, by decide, by decide⟩
  | boolean value => cases value <;> exact ⟨_, _, rfl, by decide, by decide⟩
  | number value =>
    obtain ⟨head, tail, text, starts⟩ := utf8_text_cons value
    obtain ⟨noSpace, -, -, noBracket, -⟩ := startsNumber_apart starts
    exact ⟨head, tail, text, noSpace, noBracket⟩
  | string value => exact ⟨_, _, rfl, by decide, by decide⟩
  | array items => exact ⟨_, _, rfl, by decide, by decide⟩
  | object members => exact ⟨_, _, rfl, by decide, by decide⟩

end Starts

section Texts

variable (layout : Layout) (depth : Nat)

/-- The text of a member from behind the opening quote of its key. -/
def behindQuote (layout : Layout) (key : String) (value : Bytes) : Bytes :=
  (utf8 key).flatMap escapeByte ++ 0x22 :: byte ':' :: (layout.gap ++ value)

/-- The text of an object with members, parted at the first value. -/
theorem laidOut_object_cons (key : String) (value : Value) (others : List (String × Value))
    (rest : Bytes) :
    (Value.object ((key, value) :: others)).laidOut layout depth ++ rest =
      byte '\x7b' :: (layout.lineStart (depth + 1) ++ 0x22 :: behindQuote layout key
        (value.laidOut layout (depth + 1) ++ (laidOutMembers layout depth false others ++ rest))) := by
  simp [Value.laidOut, laidOutMembers, separator, spelledString, behindQuote]

/-- A string is spelled between its quotes. -/
theorem spellsString_spelledString (text : String) : SpellsString text (spelledString text) :=
  ⟨_, spellsContent_escaped (utf8 text), rfl⟩

/-- Items that are laid out are spelled in front of the bracket, if each of them is. -/
theorem areSpelledItems_laidOut {item : Value} {items : List Value}
    (each : ∀ other ∈ item :: items, other.IsSpelled (other.laidOut layout (depth + 1)))
    (first : Bool) : ∃ inner, AreSpelledItems first (item :: items) inner ∧
      laidOutItems layout depth first (item :: items) = inner ++ [0x5D] := by
  have start := layout.lineStart_blank (depth + 1)
  have own := each item List.mem_cons_self
  induction items generalizing item first with
  | nil =>
    exact ⟨_, ⟨_, [], .of_blank start own (layout.lineStart_blank depth), rfl, rfl⟩, by
      simp [laidOutItems, byte]⟩
  | cons next items inductionHypothesis =>
    obtain ⟨inner, spelled, parts⟩ := inductionHypothesis
      (fun other later => each other (List.mem_cons_of_mem _ later)) false
      (each next (List.mem_cons_of_mem _ List.mem_cons_self))
    exact ⟨_, ⟨_, inner, .of_blank start own isBlank_nil, spelled, rfl⟩, by
      rw [laidOutItems, parts]; simp⟩

/-- Members that are laid out are spelled in front of the brace, if the value of each of them is. -/
theorem areSpelledMembers_laidOut {key : String} {value : Value} {members : List (String × Value)}
    (each : ∀ other ∈ (key, value) :: members,
      other.2.IsSpelled (other.2.laidOut layout (depth + 1)))
    (first : Bool) : ∃ inner, AreSpelledMembers first ((key, value) :: members) inner ∧
      laidOutMembers layout depth first ((key, value) :: members) = inner ++ [0x7D] := by
  have start := layout.lineStart_blank (depth + 1)
  have own := each (key, value) List.mem_cons_self
  have named := Padded.of_blank start (spellsString_spelledString key) isBlank_nil
  induction members generalizing key value first with
  | nil =>
    exact ⟨_, ⟨_, _, [], named, .of_blank layout.gap_blank own (layout.lineStart_blank depth), rfl,
      rfl⟩, by simp [laidOutMembers, byte]⟩
  | cons next members inductionHypothesis =>
    obtain ⟨nextKey, nextValue⟩ := next
    obtain ⟨inner, spelled, parts⟩ := inductionHypothesis
      (fun other later => each other (List.mem_cons_of_mem _ later)) false
      (each (nextKey, nextValue) (List.mem_cons_of_mem _ List.mem_cons_self))
      (.of_blank start (spellsString_spelledString nextKey) isBlank_nil)
    exact ⟨_, ⟨_, _, inner, named, .of_blank layout.gap_blank own isBlank_nil, spelled, rfl⟩, by
      rw [laidOutMembers, parts]; simp⟩

/-- A legible value is spelled by its text in any layout. -/
theorem isSpelled_laidOut {value : Value} (legible : value.isLegible = true) :
    value.IsSpelled (value.laidOut layout depth) := by
  induction value using Value.induction generalizing depth with
  | null => rfl
  | boolean value => cases value <;> rfl
  | number value =>
    refine ⟨value.numeral, value.wellFormed_numeral, ?_, isReread_iff.mp legible⟩
    rw [Value.laidOut, value.utf8_text]
    exact value.numeral.isSpelled_spelled
  | string value => exact spellsString_spelledString value
  | array items inductionHypothesis =>
    have each := (every_array.mp legible).2
    cases items with
    | nil => exact ⟨[], [], isBlank_nil, rfl, rfl⟩
    | cons item items =>
      obtain ⟨inner, spelled, parts⟩ := areSpelledItems_laidOut layout depth
        (fun other belongs => inductionHypothesis other belongs _ (each other belongs)) true
      exact ⟨[], inner, isBlank_nil, spelled, by rw [Value.laidOut, parts]; rfl⟩
  | object members inductionHypothesis =>
    have each := (every_object.mp legible).2
    rcases members with _ | ⟨⟨key, value⟩, members⟩
    · exact ⟨[], [], isBlank_nil, rfl, rfl⟩
    · obtain ⟨inner, spelled, parts⟩ := areSpelledMembers_laidOut layout depth
        (fun other belongs => inductionHypothesis other belongs _ (each other belongs)) true
      exact ⟨[], inner, isBlank_nil, spelled, by rw [Value.laidOut, parts]; rfl⟩

end Texts

/-- The text of a legible value in any layout is a document of that value. -/
theorem isText_laidOut (layout : Layout) {value : Value} (legible : value.isLegible = true) :
    value.IsText (value.laidOut layout 0) :=
  ⟨[], _, [], isBlank_nil, isSpelled_laidOut layout 0 legible, isBlank_nil, by simp⟩

/-- The compact text of an integral value is a document of that value. -/
theorem isText_compact {value : Value} (integral : value.isIntegral = true) :
    value.IsText value.compact := by
  rw [compact_eq, ← laidOut_compact value 0]
  exact isText_laidOut .compact (isLegible_of_isIntegral integral)

/-- The indented text of a legible value is a document of that value. -/
theorem isText_indented {value : Value} (legible : value.isLegible = true) :
    value.IsText value.indented := by
  rw [indented_eq]
  exact isText_laidOut .indented legible

end GatedResolver.Json
