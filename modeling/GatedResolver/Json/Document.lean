import GatedResolver.Json.Reader

/-!
# Whole documents

A document is one value with white space around it. Its tree is built in one pass; a
reader then walks the tree, and what stands behind the value is looked at last.
-/

namespace GatedResolver.Json

/-- How deep containers may be nested. -/
def depthLimit : Nat := 127

/-- The value of a member, behind its key: a colon has to come first. -/
def readAfterKey (value : Bytes → Tree × Option Bytes) (text : Bytes) :
    Tree × Option Bytes :=
  match dropSpace text with
  | 0x3A :: rest => value rest
  | _ :: _ => (.broken .expectedColon, none)
  | [] => (.broken (.unfinished .object), none)

/-- Read items from behind the opening bracket or a comma, where an item is due, on top of
those read so far with the latest first. -/
def treeItems (value : Bytes → Tree × Option Bytes) : (fuel : Nat) → (done : List Tree) →
    Bytes → Tree × Option Bytes
  | 0, done, _ => (.array done.reverse (some .listUnfinished), none)
  | fuel + 1, done, text =>
    match value text with
    | (tree, none) => (.array (tree :: done).reverse (some .listUnfinished), none)
    | (tree, some behind) =>
      match dropSpace behind with
      | [] => (.array (tree :: done).reverse (some .listUnfinished), none)
      | octet :: rest =>
        if octet == 0x5D then (.array (tree :: done).reverse none, some rest)
        else if octet == 0x2C then
          match dropSpace rest with
          | [] => (.array (tree :: done).reverse (some .listUnfinishedAfterComma), none)
          | next :: following =>
            if next == 0x5D then
              (.array (tree :: done).reverse (some .listTrailingComma), none)
            else treeItems value fuel (tree :: done) (next :: following)
        else (.array (tree :: done).reverse (some .listUnseparated), none)

/-- Read members from a place where a key starts, from behind its opening quote, on top of
those read so far with the latest first. -/
def treeMembers (value : Bytes → Tree × Option Bytes) : (fuel : Nat) →
    (done : List (Token String × Tree)) → Bytes → Tree × Option Bytes
  | 0, done, _ => (.object done.reverse (some .objectUnfinished), none)
  | fuel + 1, done, text =>
    match scanString ⟨[], none, none⟩ text with
    | ⟨key, none⟩ =>
      (.object ((key, .broken (.unfinished .object)) :: done).reverse none, none)
    | ⟨key, some behindKey⟩ =>
      match readAfterKey value behindKey with
      | (tree, none) => (.object ((key, tree) :: done).reverse (some .objectUnfinished), none)
      | (tree, some behind) =>
        match dropSpace behind with
        | [] => (.object ((key, tree) :: done).reverse (some .objectUnfinished), none)
        | octet :: rest =>
          if octet == 0x7D then (.object ((key, tree) :: done).reverse none, some rest)
          else if octet == 0x2C then
            match dropSpace rest with
            | [] =>
              (.object ((key, tree) :: done).reverse (some .objectUnfinishedAfterComma), none)
            | next :: following =>
              if next == 0x22 then treeMembers value fuel ((key, tree) :: done) following
              else if next == 0x7D then
                (.object ((key, tree) :: done).reverse (some .objectTrailingComma), none)
              else (.object ((key, tree) :: done).reverse (some .objectKeyMissing), none)
          else (.object ((key, tree) :: done).reverse (some .objectUnseparated), none)

/-- Read a value, with room for so many more nested containers, and give the text behind
it. The fuel bounds the items of each container. -/
def readTree (fuel : Nat) : (room : Nat) → Bytes → Tree × Option Bytes
  | room, text =>
    match dropSpace text with
    | [] => (.broken (.unfinished .value), none)
    | octet :: rest =>
      if octet == 0x5B || octet == 0x7B then
        match room with
        | 0 =>
          match skipOpen (2 * fuel + 1) .firstItemOrEnd [octet == 0x7B] rest with
          | .ok behind => (.tooDeep (octet == 0x7B) none, some behind)
          | .error fault => (.tooDeep (octet == 0x7B) (some fault), none)
        | room + 1 =>
          if octet == 0x5B then
            match dropSpace rest with
            | [] => (.array [] (some .listUnfinished), none)
            | next :: following =>
              if next == 0x5D then (.array [] none, some following)
              else treeItems (readTree fuel room) fuel [] (next :: following)
          else
            match dropSpace rest with
            | [] => (.object [] (some .objectUnfinished), none)
            | next :: following =>
              if next == 0x7D then (.object [] none, some following)
              else if next == 0x22 then treeMembers (readTree fuel room) fuel [] following
              else (.object [] (some .objectKeyMissing), none)
      else scanScalar octet rest

/-- A document: the tree of its value, and whether something other than white space
follows it. -/
structure Document where
  tree : Tree
  trailing : Bool

/-- Cut a text into a document. -/
def Document.ofText (text : Bytes) : Document :=
  match readTree text.length depthLimit text with
  | (tree, none) => ⟨tree, false⟩
  | (tree, some behind) => ⟨tree, !(dropSpace behind).isEmpty⟩

/-- Read the value of a document in some way, then check that nothing follows it. -/
def Document.readWith {α : Type} (document : Document) (read : Tree → Except Fault α) :
    Except Fault α := do
  let value ← read document.tree
  if document.trailing then throw .trailingCharacters
  return value

end GatedResolver.Json
