import GatedResolver.Json.Tree

/-!
# Settings documents

A document is a table of keys. A table comes into being in one of four ways, and what may
be added to it later depends on the way: a table with a header of its own can get one
header only, a table that is implied by a longer header can still get its own, a table
that was made by a dotted key can be extended by further dotted keys, and an inline table
is complete where it stands.
-/

namespace GatedResolver.Toml

/-- How a table came into being. -/
inductive TableKind where
  | headed
  | implied
  | dotted
  | inlined
deriving DecidableEq

/-- Whether a path may enter a table, on its way or at its `last` key. The path of a header
enters every table but an inline one. A dotted path passes only through tables that have no
header, and ends in one that dotted keys made. -/
def TableKind.admits (kind : TableKind) (dotted last : Bool) : Bool :=
  match kind with
  | .headed => !dotted
  | .implied => !(dotted && last)
  | .dotted => true
  | .inlined => false

/-- A value of a settings document. An integer keeps its exact value. A floating point
number that is too large for its format is none. -/
inductive Node where
  | string (text : String)
  | integer (value : Int)
  | float (value : Option Binary64)
  | boolean (value : Bool)
  | dateTime
  | array (items : List Node)
  | table (kind : TableKind) (members : List (String × Node))
  | tables (latestFirst : List Node)

/-- The keys of a table and their values. -/
abbrev Members := List (String × Node)

namespace Members

/-- The value of a key. -/
def find? (key : String) : Members → Option Node
  | [] => none
  | (otherKey, node) :: rest => if key = otherKey then some node else find? key rest

/-- Give a key a value. -/
def set (key : String) (node : Node) : Members → Members
  | [] => [(key, node)]
  | (otherKey, otherNode) :: rest =>
    if key = otherKey then (key, node) :: rest else (otherKey, otherNode) :: set key node rest

/-- Give a key that is not in use a value. -/
def add (key : String) (node : Node) (members : Members) : Option Members :=
  match members.find? key with
  | none => some (members.set key node)
  | some _ => none

/-- Change the table at the end of a path. Tables that are missing on the way are created.
In a list of tables a path goes on in the latest one; a dotted path does not end there. -/
def descend (dotted : Bool) (change : Members → Option Members) :
    (path : List String) → Members → Option Members
  | [], members => change members
  | key :: rest, members =>
    match members.find? key with
    | none => do
      let inner ← descend dotted change rest []
      return members.set key (.table (if dotted then .dotted else .implied) inner)
    | some (.table kind inner) =>
      if kind.admits dotted rest.isEmpty then do
        let changed ← descend dotted change rest inner
        return members.set key (.table kind changed)
      else none
    | some (.tables (.table kind latest :: before)) =>
      if dotted ∧ rest.isEmpty then none
      else do
        let changed ← descend dotted change rest latest
        return members.set key (.tables (.table kind changed :: before))
    | some _ => none

/-- Start the table of a header. -/
def openTable (key : String) (members : Members) : Option Members :=
  match members.find? key with
  | none => some (members.set key (.table .headed []))
  | some (.table .implied inner) => some (members.set key (.table .headed inner))
  | some _ => none

/-- Start the next table of a list of tables. -/
def openListed (key : String) (members : Members) : Option Members :=
  match members.find? key with
  | none => some (members.set key (.tables [.table .headed []]))
  | some (.tables earlier) => some (members.set key (.tables (.table .headed [] :: earlier)))
  | some _ => none

end Members

/-- The integers that can be passed over. -/
def isWideInteger (value : Int) : Bool :=
  -170141183460469231731687303715884105728 ≤ value &&
    value < 340282366920938463463374607431768211456

/-- Put a member into members that are in ascending order of keys. -/
def insertTree (key : String) (tree : Json.Tree) :
    List (String × Json.Tree) → List (String × Json.Tree)
  | [] => [(key, tree)]
  | (otherKey, otherTree) :: rest =>
    if key < otherKey then (key, tree) :: (otherKey, otherTree) :: rest
    else (otherKey, otherTree) :: insertTree key tree rest

/-- Members whose keys can be read. -/
def readable (members : List (String × Json.Tree)) : List (Json.Token String × Json.Tree) :=
  members.map fun (key, tree) => (⟨.ok key, none⟩, tree)

/-- The tree of an integer. It can be read if it fits into 64 bits. -/
def integerTree (value : Int) : Json.Tree :=
  if within : Json.leastInteger ≤ value ∧ value < Json.integerLimit then
    .number ⟨.ok (.integer value within), none⟩
  else
    .number ⟨.error .numberOutOfRange,
      if isWideInteger value then none else some .numberOutOfRange⟩

/-- The tree of a floating point number. -/
def floatTree : Option Binary64 → Json.Tree
  | some value =>
    if finite : value.isFinite = true then .number ⟨.ok (.float value finite), none⟩
    else .foreign (.float value)
  | none => .number ⟨.error .numberOutOfRange, some .numberOutOfRange⟩

mutual
/-- The tree of a value. The members of a table are visited in ascending order of keys. A
date is read as a map of an unknown member. -/
def Node.tree : Node → Json.Tree
  | .string text => .string ⟨.ok text, none⟩
  | .integer value => integerTree value
  | .float value => floatTree value
  | .boolean value => .boolean value
  | .dateTime => .object [(⟨.ok "", none⟩, .null)] none
  | .array items => .array (treesOf items) none
  | .table _ members => .object (readable (memberTrees [] members)) none
  | .tables items => .array (treesOf items).reverse none

/-- The trees of values. -/
def treesOf : List Node → List Json.Tree
  | [] => []
  | item :: rest => item.tree :: treesOf rest

/-- The trees of members, among those that are in their places already. -/
def memberTrees (done : List (String × Json.Tree)) :
    List (String × Node) → List (String × Json.Tree)
  | [] => done
  | (key, node) :: rest => memberTrees (insertTree key node.tree done) rest
end

end GatedResolver.Toml
