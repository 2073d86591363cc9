import GatedResolver.Proofs.Json.Records

/-!
# How documents begin

The first member of an object is read from the text of the object whatever stands behind it, be it
at fault or not. So a record whose first field is the first member of the object has the value of
that member, if it is read at all.
-/

namespace GatedResolver.Json

open Text (byte utf8)

section Trees

variable {read : Bytes → Tree × Option Bytes} {layout : Layout} {depth : Nat}

/-- A tree is an object with a first member. -/
def Tree.BeginsWith (tree : Tree) (key : String) (value : Tree) : Prop :=
  ∃ others breach, tree = .object ((⟨.ok key, none⟩, value) :: others) breach

/-- Members that were read stay in front of those that are read. -/
theorem treeMembers_done (fuel : Nat) (done : List (Token String × Tree)) (text : Bytes) :
    ∃ others breach, (treeMembers read fuel done text).1 =
      .object (done.reverse ++ others) breach := by
  fun_induction treeMembers read fuel done text with
  | case1 done text => exact ⟨[], _, by rw [List.append_nil]⟩
  | case7 fuel done text key behindKey token tree behind treeRead octet rest following noBrace comma
      after next separated quote inductionHypothesis =>
    obtain ⟨others, breach, same⟩ := inductionHypothesis
    rw [List.reverse_cons, List.append_assoc] at same
    exact ⟨_, breach, same⟩
  | _ => exact ⟨_, _, congrArg₂ Tree.object List.reverse_cons rfl⟩

/-- The first member of an object is read before the others. -/
theorem treeMembers_first (skips : ∀ text, read (layout.gap ++ text) = read text) (fuel : Nat)
    (key : String) (text : Bytes) :
    ((treeMembers read (fuel + 1) [] (behindQuote layout key text)).1).BeginsWith key (read text).1 := by
  have colon : ∀ text, readAfterKey read (byte ':' :: text) = read text := fun _ => rfl
  unfold treeMembers
  rw [behindQuote, scanString_text]
  simp only [colon, skips]
  rcases read text with ⟨tree, _ | behind⟩
  · exact ⟨[], _, rfl⟩
  · simp only
    repeat' split
    all_goals first
      | exact ⟨[], _, rfl⟩
      | exact treeMembers_done fuel [(⟨.ok key, none⟩, tree)] _

/-- The first member of an object is read from the text of the object. -/
theorem readTree_first {fuel room : Nat} (enough : 0 < fuel) (key : String) (value : Value)
    (others : List (String × Value)) (rest : Bytes) :
    ∃ behind, ((readTree fuel (room + 1)
        ((Value.object ((key, value) :: others)).laidOut layout depth ++ rest)).1).BeginsWith key
      (readTree fuel room (value.laidOut layout (depth + 1) ++ behind)).1 := by
  refine ⟨laidOutMembers layout depth false others ++ rest, ?_⟩
  obtain ⟨fuel, rfl⟩ : ∃ less, fuel = less + 1 := ⟨fuel - 1, by omega⟩
  rw [laidOut_object_cons, readTree_members _ _ (layout.lineStart_blank _)]
  exact treeMembers_first (readTree_blank (fuel + 1) room layout.gap_blank) fuel key _

/-- The first member of an object is read from the indented text of the object. -/
theorem ofText_first (key : String) (value : Value) (others : List (String × Value)) :
    ∃ fuel behind, 0 < fuel ∧
      (Document.ofText (Value.object ((key, value) :: others)).indented).tree.BeginsWith key
        (readTree fuel (depthLimit - 1) (value.laidOut .indented 1 ++ behind)).1 := by
  have parts := laidOut_object_cons .indented 0 key value others []
  have first : ∀ fuel, 0 < fuel → _ := fun fuel enough =>
    @readTree_first .indented 0 fuel (depthLimit - 1) enough key value others []
  simp only [List.append_nil] at parts first
  rw [indented_eq]
  generalize (Value.object ((key, value) :: others)).laidOut .indented 0 = text at parts first ⊢
  have enough : 0 < text.length := by
    rw [parts]
    exact Nat.succ_pos _
  obtain ⟨behind, begins⟩ := first text.length enough
  have cut : (Document.ofText text).tree = (readTree text.length depthLimit text).1 := by
    rw [Document.ofText]
    split <;> next treeRead => rw [treeRead]
  rw [cut]
  exact ⟨text.length, behind, enough, begins⟩

/-- A string is read from its text. -/
theorem readTree_string (fuel room : Nat) (value : String) (rest : Bytes) :
    (readTree fuel room ((Value.string value).laidOut layout depth ++ rest)).1 =
      .string ⟨.ok value, none⟩ := by
  have scanned := scanString_text value rest
  rw [Value.laidOut, spelledString, List.append_assoc, List.cons_append,
    readTree_scalar fuel room _ (by decide) (by decide) (by decide)]
  simp [scanScalar, scanned]

end Trees

section Fields

variable {α β γ : Type} {name : String} {decoder : Decoder α} {others : Fields β}
  {make : α × β → γ} {source : Source}

/-- A field that is met once stays as it was read. -/
theorem draft_of_takeMembers {draft last : (Fields.both (.required name decoder) others).Draft}
    {value : α} {members : List (Token String × Tree)} (met : draft.1 = some value)
    (took : takeMembers (fun key => (Fields.both (.required name decoder) others).take key source)
      draft members = .ok last) : last.1 = some value := by
  refine takeMembers_preserves (fun draft => draft.1 = some value) ?_ met took
  rintro key tree ⟨first, second⟩ changed rfl taken
  simp only [Fields.both, Fields.required, Fields.one] at taken
  by_cases same : key = name
  · simp [same, Except.map] at taken
  · rw [if_neg same] at taken
    simp only at taken
    split at taken
    · next result took =>
      obtain ⟨second, -, rfl⟩ := ok_of_map (Option.some.inj taken)
      rfl
    · cases taken

/-- A record whose first field is the first member of an object has the value of that member. -/
theorem first_of_record {title : String} {tree value : Tree} {result : γ}
    (begins : tree.BeginsWith name value)
    (read : Decoder.record title ((Fields.both (.required name decoder) others).map make) source
      tree = .ok result) :
    ∃ first second, decoder source value = .ok first ∧ result = make (first, second) := by
  obtain ⟨members, breach, rfl⟩ := begins
  obtain ⟨draft, took, raised⟩ := ok_of_bind read
  obtain ⟨-, -, finished⟩ := ok_of_bind raised
  obtain ⟨⟨first, second⟩, paired, rfl⟩ := ok_of_map finished
  obtain ⟨single, singled, others⟩ := ok_of_bind paired
  obtain ⟨_, _, same⟩ := ok_of_bind others
  obtain ⟨rfl, rfl⟩ := Prod.mk.inj (Except.ok.inj same)
  simp only [takeMembers, Fields.map, Fields.both, Fields.required, Fields.one, if_true] at took
  cases valueRead : decoder source value with
  | error fault =>
    rw [valueRead] at took
    cases took
  | ok result =>
    rw [valueRead] at took
    have met : draft.1 = some result := draft_of_takeMembers rfl took
    simp only [Fields.required, Fields.one, met] at singled
    cases singled
    exact ⟨_, _, rfl, rfl⟩

end Fields

end GatedResolver.Json
