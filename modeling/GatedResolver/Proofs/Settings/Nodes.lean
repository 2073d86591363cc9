import GatedResolver.Proofs.Json.Slots
import GatedResolver.Proofs.Settings.Single
import GatedResolver.Toml.Node
import Mathlib.Data.String.Basic

/-!
# Values in a settings document

A reader of settings sees a document as a tree. The parts of that tree are the parts of the
document, and a reader of a kind of settings accepts exactly one way to write each value: a string
for a text, an integer for a word, an array of strings for a list of texts.
-/

namespace GatedResolver.Toml

/-- The items of an array or of a list of tables, in the order of the document. -/
def Node.items? : Node → Option (List Node)
  | .array items => some items
  | .tables latestFirst => some latestFirst.reverse
  | _ => none

/-- The part of a value that belongs to a field of a record: in a table the value of the name of
the field, in an array the item at its place. -/
def Node.part? (name : String) (place : Nat) : Node → Option Node
  | .table _ members => Members.find? name members
  | node => node.items?.bind fun items => items[place]?

/-- The members of a table in the order in which a reader visits them. -/
def Ordered (members : List (String × Json.Tree)) : Prop :=
  members.Pairwise fun earlier later => earlier.1 ≤ later.1

/-- What an insertion leaves was there before or is inserted. -/
theorem mem_insertTree {key : String} {tree : Json.Tree} {members : List (String × Json.Tree)}
    {member : String × Json.Tree} (belongs : member ∈ insertTree key tree members) :
    member = (key, tree) ∨ member ∈ members := by
  induction members with
  | nil => exact .inl (List.mem_singleton.mp belongs)
  | cons first rest inductionHypothesis =>
    simp only [insertTree] at belongs
    split at belongs
    · exact List.mem_cons.mp belongs
    · rcases List.mem_cons.mp belongs with same | later
      · exact .inr (same ▸ List.mem_cons_self)
      · exact (inductionHypothesis later).imp_right (List.mem_cons_of_mem _)

/-- Members in order are so after an insertion. -/
theorem Ordered.insertTree {members : List (String × Json.Tree)} (ordered : Ordered members)
    (key : String) (tree : Json.Tree) : Ordered (insertTree key tree members) := by
  induction members with
  | nil => exact List.pairwise_singleton _ _
  | cons first rest inductionHypothesis =>
    obtain ⟨least, others⟩ := List.pairwise_cons.mp ordered
    simp only [Toml.insertTree]
    split
    · next less =>
      refine List.pairwise_cons.mpr ⟨fun member belongs => ?_, ordered⟩
      rcases List.mem_cons.mp belongs with rfl | later
      · exact le_of_lt less
      · exact le_trans (le_of_lt less) (least member later)
    · next notLess =>
      refine List.pairwise_cons.mpr ⟨fun member belongs => ?_, inductionHypothesis others⟩
      rcases mem_insertTree belongs with rfl | earlier
      · exact not_lt.mp notLess
      · exact least member earlier

/-- There is no member with a key that all keys differ from. -/
theorem findMember?_readable_eq_none {name : String} {members : List (String × Json.Tree)}
    (different : ∀ member ∈ members, member.1 ≠ name) :
    Json.findMember? name (readable members) = none := by
  induction members with
  | nil => rfl
  | cons first rest inductionHypothesis =>
    have differs := different first List.mem_cons_self
    simp only [readable, List.map_cons, Json.findMember?, if_neg differs]
    exact inductionHypothesis fun member later => different member (List.mem_cons_of_mem _ later)

/-- An inserted member is found if no member with its key was there before. -/
theorem findMember?_insertTree {members : List (String × Json.Tree)} (ordered : Ordered members)
    (name key : String) (tree : Json.Tree) :
    Json.findMember? name (readable (insertTree key tree members)) =
      (Json.findMember? name (readable members)).or (if key = name then some tree else none) := by
  induction members with
  | nil => simp [insertTree, readable, Json.findMember?]
  | cons first rest inductionHypothesis =>
    obtain ⟨least, others⟩ := List.pairwise_cons.mp ordered
    simp only [insertTree]
    split
    · next less =>
      by_cases same : key = name
      · -- All keys that were there before are greater than the one that is inserted.
        have absent : Json.findMember? name (readable (first :: rest)) = none := by
          refine findMember?_readable_eq_none fun member belongs => ?_
          rcases List.mem_cons.mp belongs with rfl | later
          · exact same ▸ ne_of_gt less
          · exact same ▸ ne_of_gt (lt_of_lt_of_le less (least member later))
        simp only [readable, List.map_cons] at absent ⊢
        rw [absent, Json.findMember?]
        simp [same]
      · simp [readable, Json.findMember?, same]
    · by_cases firstSame : first.1 = name
      · simp [readable, Json.findMember?, firstSame]
      · have found := inductionHypothesis others
        simp only [readable, List.map_cons, Json.findMember?, if_neg firstSame] at found ⊢
        exact found

/-- A member of a table is found among its trees. -/
theorem findMember?_memberTrees (name : String) (members : Members) :
    ∀ {done : List (String × Json.Tree)}, Ordered done →
      Json.findMember? name (readable (memberTrees done members)) =
        (Json.findMember? name (readable done)).or ((members.find? name).map Node.tree) := by
  induction members with
  | nil =>
    intro done ordered
    simp [memberTrees, Members.find?]
  | cons first rest inductionHypothesis =>
    intro done ordered
    rw [memberTrees, inductionHypothesis (ordered.insertTree _ _),
      findMember?_insertTree ordered, Option.or_assoc]
    congr 1
    by_cases same : first.1 = name
    · simp [Members.find?, same]
    · simp [Members.find?, same, Ne.symm same]

/-- The trees of values, one by one. -/
theorem treesOf_eq_map (items : List Node) : treesOf items = items.map Node.tree := by
  induction items with
  | nil => rfl
  | cons item rest inductionHypothesis => rw [treesOf, inductionHypothesis, List.map_cons]

/-- A list of values is an array for a reader. -/
theorem tree_of_items?_eq_some {node : Node} {items : List Node}
    (listed : node.items? = some items) : node.tree = .array (items.map Node.tree) none := by
  cases node with
  | array =>
    cases listed
    rw [Node.tree, treesOf_eq_map]
  | tables =>
    cases listed
    rw [Node.tree, treesOf_eq_map, List.map_reverse]
  | string | integer | float | boolean | dateTime | table => cases listed

/-- Whether a value is a number. -/
def Node.isNumeral : Node → Bool
  | .integer _ | .float _ => true
  | _ => false

/-- A number is a number for a reader, which is the integer that is written if it is an integer at
all, or it is nothing that JSON has a value for. -/
theorem tree_of_isNumeral {node : Node} (numeral : node.isNumeral = true) :
    (∃ token, node.tree = .number token ∧ ∀ {number value}, token.read = .ok number →
      number.found = .integer value → node = .integer value) ∨
    ∃ found, node.tree = .foreign found := by
  cases node with
  | integer written =>
    rw [Node.tree, integerTree]
    split
    · refine .inl ⟨_, rfl, fun read found => ?_⟩
      cases read
      cases found
      rfl
    · exact .inl ⟨_, rfl, fun read => nomatch read⟩
  | float written =>
    cases written with
    | none => exact .inl ⟨_, rfl, fun read => nomatch read⟩
    | some float =>
      by_cases finite : float.isFinite = true
      · refine .inl ⟨⟨.ok (.float float finite), none⟩, dif_pos finite, fun read found => ?_⟩
        cases read
        cases found
      · exact .inr ⟨_, dif_neg finite⟩
  | string | boolean | dateTime | table | array | tables => cases numeral

/-- The parts of the tree of a value are the trees of its parts. -/
theorem part?_tree {name : String} (named : name ≠ "") (place : Nat) (node : Node) :
    node.tree.part? name place = (node.part? name place).map Node.tree := by
  by_cases numeral : node.isNumeral = true
  · have partless : node.part? name place = none := by cases node <;> first | rfl | cases numeral
    rw [partless]
    rcases tree_of_isNumeral numeral with ⟨token, shape, -⟩ | ⟨found, shape⟩ <;> rw [shape] <;> rfl
  cases node with
  | string | boolean => rfl
  | integer | float => exact absurd rfl numeral
  | dateTime =>
    simp [Node.tree, Json.Tree.part?, Json.findMember?, named.symm, Node.part?, Node.items?]
  | table kind members =>
    rw [Node.tree, Json.Tree.part?, findMember?_memberTrees name members List.Pairwise.nil]
    rfl
  | array items =>
    have listed : (Node.array items).items? = some items := rfl
    rw [tree_of_items?_eq_some listed, Json.Tree.part?, List.getElem?_map]
    rfl
  | tables latestFirst =>
    have listed : (Node.tables latestFirst).items? = some latestFirst.reverse := rfl
    rw [tree_of_items?_eq_some listed, Json.Tree.part?, List.getElem?_map]
    rfl

/-- Only a string is read as a text. -/
theorem eq_string_of_text {source : Json.Source} {node : Node} {text : String}
    (read : Json.Decoder.text source node.tree = .ok text) : node = .string text := by
  by_cases numeral : node.isNumeral = true
  · rcases tree_of_isNumeral numeral with ⟨token, shape, -⟩ | ⟨found, shape⟩ <;>
      rw [shape] at read <;> exact absurd read (Json.mismatch_ne_ok _ _ _)
  cases node with
  | string written =>
    cases read
    rfl
  | integer | float => exact absurd rfl numeral
  | boolean | dateTime | table | array | tables => exact absurd read (Json.mismatch_ne_ok _ _ _)

/-- Only an integer is read as an integer, and it is of the range that is wanted. -/
theorem eq_integer_of_integerIn {range : Json.Decoder.IntegerRange} {source : Json.Source}
    {node : Node} {value : Int} (read : Json.Decoder.integerIn range source node.tree = .ok value) :
    node = .integer value ∧ range.least ≤ value ∧ value ≤ range.greatest := by
  by_cases numeral : node.isNumeral = true
  · rcases tree_of_isNumeral numeral with ⟨token, shape, spells⟩ | ⟨found, shape⟩
    · rw [shape] at read
      obtain ⟨number, numberRead, read⟩ := ok_of_bind read
      cases number with
      | integer written within =>
        simp only at read
        split at read
        · next inRange =>
          cases read
          exact ⟨spells numberRead rfl, inRange⟩
        · cases read
      | float => cases read
    · rw [shape] at read
      exact absurd read (Json.mismatch_ne_ok _ _ _)
  cases node with
  | integer | float => exact absurd rfl numeral
  | string | boolean | dateTime | table | array | tables =>
    exact absurd read (Json.mismatch_ne_ok _ _ _)

/-- No value of a document is nothing. -/
theorem tree_ne_null (node : Node) : node.tree ≠ .null := by
  by_cases numeral : node.isNumeral = true
  · rcases tree_of_isNumeral numeral with ⟨token, shape, -⟩ | ⟨found, shape⟩ <;> rw [shape] <;>
      nofun
  cases node with
  | integer | float => exact absurd rfl numeral
  | string | boolean | dateTime | table | array | tables => nofun

/-- Only a list of values is read as a list, item by item. -/
theorem items_of_list {α : Type} {decoder : Json.Decoder α} {source : Json.Source} {node : Node}
    {values : List α} (read : Json.Decoder.list decoder source node.tree = .ok values) :
    ∃ items, node.items? = some items ∧
      Json.Decoder.itemsOnto (decoder source) [] (items.map Node.tree) = .ok values := by
  by_cases numeral : node.isNumeral = true
  · rcases tree_of_isNumeral numeral with ⟨token, shape, -⟩ | ⟨found, shape⟩ <;>
      rw [shape] at read <;> exact absurd read (Json.mismatch_ne_ok _ _ _)
  cases listed : node.items? with
  | none =>
    cases node with
    | integer | float => exact absurd rfl numeral
    | string | boolean | dateTime | table => exact absurd read (Json.mismatch_ne_ok _ _ _)
    | array | tables => cases listed
  | some items =>
    rw [tree_of_items?_eq_some listed] at read
    obtain ⟨values, itemsRead, read⟩ := ok_of_bind read
    cases read
    exact ⟨items, rfl, itemsRead⟩

/-- What is read where nothing is an answer, too, is read as something. -/
theorem some_of_nullable {α : Type} {decoder : Json.Decoder α} {source : Json.Source}
    {node : Node} {result : Option α}
    (read : Json.Decoder.nullable decoder source node.tree = .ok result) :
    ∃ value, result = some value ∧ decoder source node.tree = .ok value := by
  unfold Json.Decoder.nullable at read
  split at read
  · next _ absent => exact absurd absent (tree_ne_null node)
  · cases read
  · obtain ⟨value, valueRead, rfl⟩ := ok_of_map read
    exact ⟨value, rfl, valueRead⟩

end GatedResolver.Toml
