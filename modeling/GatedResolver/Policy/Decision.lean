import GatedResolver.Json.Decode

/-!
# Policy decisions

A decision has a state and whatever other members its author put beside the state. Three
states are known by name; any other text is a state of its own. The decision does not
change what is answered: it is relayed with the answer.
-/

namespace GatedResolver.Policy

/-- The state of a policy. -/
inductive State where
  | allow
  | block
  | unknown
  | other (text : String)
deriving DecidableEq

namespace State

/-- The state that a text names. -/
def ofText (text : String) : State :=
  if text = "ALLOW" then .allow
  else if text = "BLOCK" then .block
  else if text = "UNKNOWN" then .unknown
  else .other text

/-- The text of a state. -/
def text : State → String
  | .allow => "ALLOW"
  | .block => "BLOCK"
  | .unknown => "UNKNOWN"
  | .other text => text

/-- A state as a JSON value. -/
def toJson (state : State) : Json.Value :=
  .string state.text

/-- Read a state from any string. -/
def decoder : Json.Decoder State :=
  Json.Decoder.map ofText Json.Decoder.text

end State

/-- A policy decision: a state, and the other members of its document in ascending order of
keys. -/
structure Decision where
  state : State
  extra : List Json.Member
deriving DecidableEq

namespace Decision

/-- A decision that is nothing but a state. -/
def ofState (state : State) : Decision :=
  ⟨state, []⟩

/-- The decision that stands in where no policy can be had. -/
def unknown : Decision :=
  ofState .unknown

/-- A decision as a JSON value: the state first. -/
def toJson (decision : Decision) : Json.Value :=
  .object (("state", decision.state.toJson) :: decision.extra)

/-- The members of a decision that were met so far, those beside the state with the latest
first. -/
structure Draft where
  state : Option State
  collected : List (Json.Token String × Json.Tree)

/-- Read the state, or collect a member beside it. There may be one state. -/
def take (source : Json.Source) (key : String) (tree : Json.Tree) (draft : Draft) :
    Except Json.Fault Draft :=
  if key = "state" then
    match draft.state with
    | some _ => .error (.duplicateField "state")
    | none => (State.decoder source tree).map fun state => ⟨some state, draft.collected⟩
  else
    tree.check.map fun () => ⟨draft.state, (⟨.ok key, none⟩, tree) :: draft.collected⟩

/-- Read a decision from an object with a state. What the other members hold is looked at
last; of those with one key the last remains. -/
def decoder : Json.Decoder Decision
  | source, .object members breach => do
    let draft ←
      Json.takeMembers (fun key tree draft => some (take source key tree draft)) ⟨none, []⟩ members
    Json.raise? (breach.map Json.Breach.whenRead)
    match draft.state with
    | none => throw (.missingField "state")
    | some state =>
      let extra ← Json.Member.ofTrees .collected draft.collected.reverse
      return ⟨state, extra⟩
  | _, tree => Json.mismatch (.record "PolicyDecision") tree

end Decision

end GatedResolver.Policy
