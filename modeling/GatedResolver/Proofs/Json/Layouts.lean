import GatedResolver.Json.Reader
import GatedResolver.Proofs.Json.Spelling

/-!
# The text of a value in any layout

A layout says which white space stands between the parts of a value. `Value.laidOut` is the text
in a layout: without white space it is that of the compact writer (`laidOut_compact`), with a line
for each item and each member that of the indented one (`indented_eq`). What a reader makes of a
text does not depend on its layout, so it is followed along `Value.laidOut`.
-/

namespace GatedResolver.Json

open Text (byte utf8)

/-- The white space that a writer puts between the parts of a value. -/
structure Layout where
  /-- What stands before an item, a member or a closing bracket, by the containers around it. -/
  lineStart : Nat → Bytes
  /-- What stands behind a colon. -/
  gap : Bytes
  lineStart_blank : ∀ depth, ∀ octet ∈ lineStart depth, isSpace octet = true
  gap_blank : ∀ octet ∈ gap, isSpace octet = true

namespace Layout

/-- No white space at all. -/
def compact : Layout where
  lineStart _ := []
  gap := []
  lineStart_blank := by simp
  gap_blank := by simp

/-- A line for each item and each member, two spaces deeper than its container. -/
def indented : Layout where
  lineStart depth := byte '\n' :: List.replicate (2 * depth) (byte ' ')
  gap := [byte ' ']
  lineStart_blank := by
    rintro depth octet member
    rcases List.mem_cons.mp member with rfl | space
    · rfl
    · rw [(List.mem_replicate.mp space).2]
      rfl
  gap_blank := List.forall_mem_singleton.mpr rfl

end Layout

section Texts

variable (layout : Layout)

mutual
/-- The text of a value that stands inside of some containers. -/
def Value.laidOut (depth : Nat) : Value → Bytes
  | .null => utf8 "null"
  | .boolean true => utf8 "true"
  | .boolean false => utf8 "false"
  | .number value => utf8 value.text
  | .string value => spelledString value
  | .array items => byte '[' :: laidOutItems depth true items
  | .object members => byte '\x7b' :: laidOutMembers depth true members

/-- The text of items with the bracket behind them; `first` says that none stands before
them. -/
def laidOutItems (depth : Nat) (first : Bool) : List Value → Bytes
  | [] => (if first then [] else layout.lineStart depth) ++ [byte ']']
  | item :: rest =>
    separator first ++ layout.lineStart (depth + 1) ++ item.laidOut (depth + 1) ++
      laidOutItems depth false rest

/-- The text of members with the brace behind them; `first` says that none stands before
them. -/
def laidOutMembers (depth : Nat) (first : Bool) : List (String × Value) → Bytes
  | [] => (if first then [] else layout.lineStart depth) ++ [byte '\x7d']
  | (key, value) :: rest =>
    separator first ++ layout.lineStart (depth + 1) ++ spelledString key ++ byte ':' ::
      layout.gap ++ value.laidOut (depth + 1) ++ laidOutMembers depth false rest
end

end Texts

section Writers

/-- Without white space a value has its compact text. -/
theorem laidOut_compact (value : Value) (depth : Nat) :
    value.laidOut .compact depth = value.spelled := by
  induction value using Value.induction generalizing depth with
  | null => rfl
  | boolean value => cases value <;> rfl
  | number value => rfl
  | string value => rfl
  | array items inductionHypothesis =>
    have each : ∀ first, laidOutItems .compact depth first items = spelledItems first items := by
      induction items with
      | nil => intro first; cases first <;> rfl
      | cons item rest restEach =>
        intro first
        rw [laidOutItems, spelledItems, inductionHypothesis item List.mem_cons_self,
          restEach fun other later => inductionHypothesis other (List.mem_cons_of_mem _ later)]
        simp [Layout.compact]
    rw [Value.laidOut, Value.spelled, each]
  | object members inductionHypothesis =>
    have each : ∀ first,
        laidOutMembers .compact depth first members = spelledMembers first members := by
      induction members with
      | nil => intro first; cases first <;> rfl
      | cons member rest restEach =>
        intro first
        obtain ⟨key, value⟩ := member
        rw [laidOutMembers, spelledMembers, inductionHypothesis (key, value) List.mem_cons_self,
          restEach fun other later => inductionHypothesis other (List.mem_cons_of_mem _ later)]
        simp [Layout.compact]
    rw [Value.laidOut, Value.spelled, each]

/-- A line is started behind what is written already. -/
theorem writeLineStart_eq (depth : Nat) (written : Bytes) :
    writeLineStart depth written = (Layout.indented.lineStart depth).reverse ++ written := by
  simp [writeLineStart, Layout.indented]

/-- Items are written on lines of their own, one after the other. -/
theorem writeIndentedItems_eq (items : List Value) (depth : Nat)
    (writes : ∀ item ∈ items, ∀ written, writeIndented (depth + 1) written item =
      (item.laidOut .indented (depth + 1)).reverse ++ written) (written : Bytes) :
    byte ']' :: writeLineStart depth (writeIndentedItems (depth + 1) false written items) =
      (laidOutItems .indented depth false items).reverse ++ written := by
  induction items generalizing written with
  | nil => simp [writeIndentedItems, laidOutItems, writeLineStart_eq]
  | cons item rest inductionHypothesis =>
    simp only [writeIndentedItems]
    rw [writes item List.mem_cons_self,
      inductionHypothesis fun other later => writes other (List.mem_cons_of_mem _ later)]
    simp [laidOutItems, separator, writeLineStart_eq]

/-- Members are written on lines of their own, one after the other. -/
theorem writeIndentedMembers_eq (members : List (String × Value)) (depth : Nat)
    (writes : ∀ member ∈ members, ∀ written, writeIndented (depth + 1) written member.2 =
      (member.2.laidOut .indented (depth + 1)).reverse ++ written) (written : Bytes) :
    byte '\x7d' :: writeLineStart depth (writeIndentedMembers (depth + 1) false written members) =
      (laidOutMembers .indented depth false members).reverse ++ written := by
  induction members generalizing written with
  | nil => simp [writeIndentedMembers, laidOutMembers, writeLineStart_eq]
  | cons member rest inductionHypothesis =>
    obtain ⟨key, value⟩ := member
    simp only [writeIndentedMembers]
    rw [writes (key, value) List.mem_cons_self,
      inductionHypothesis fun other later => writes other (List.mem_cons_of_mem _ later)]
    simp [laidOutMembers, separator, writeLineStart_eq, writeString_eq, Layout.indented]

/-- The indented writer writes the text of a value with a line for each part. -/
theorem writeIndented_eq (value : Value) (depth : Nat) (written : Bytes) :
    writeIndented depth written value = (value.laidOut .indented depth).reverse ++ written := by
  induction value using Value.induction generalizing depth written with
  | null => simp [writeIndented, writeScalar, writeBytes_eq, Value.laidOut]
  | boolean value => cases value <;> simp [writeIndented, writeScalar, writeBytes_eq, Value.laidOut]
  | number value => simp [writeIndented, writeScalar, writeBytes_eq, Value.laidOut]
  | string value => simp [writeIndented, writeScalar, writeString_eq, Value.laidOut]
  | array items inductionHypothesis =>
    cases items with
    | nil => simp [writeIndented, Value.laidOut, laidOutItems]
    | cons item rest =>
      have others := writeIndentedItems_eq rest depth
        fun other later => inductionHypothesis other (List.mem_cons_of_mem _ later) (depth + 1)
      rw [writeIndented, writeIndentedItems, others, inductionHypothesis item List.mem_cons_self]
      · simp [Value.laidOut, laidOutItems, separator, writeLineStart_eq]
      · simp
  | object members inductionHypothesis =>
    rcases members with _ | ⟨⟨key, value⟩, rest⟩
    · simp [writeIndented, Value.laidOut, laidOutMembers]
    · have others := writeIndentedMembers_eq rest depth
        fun other later => inductionHypothesis other (List.mem_cons_of_mem _ later) (depth + 1)
      rw [writeIndented, writeIndentedMembers, others,
        inductionHypothesis (key, value) List.mem_cons_self]
      · simp [Value.laidOut, laidOutMembers, separator, writeLineStart_eq, writeString_eq,
          Layout.indented]
      · simp

/-- The indented text of a value has a line for each part. -/
theorem indented_eq (value : Value) : value.indented = value.laidOut .indented 0 := by
  rw [Value.indented, writeIndented_eq, List.append_nil, List.reverse_reverse]

end Writers

end GatedResolver.Json
