import GatedResolver.Quorum.Reply
import GatedResolver.Settings.Basic
import GatedResolver.Warning

/-!
# The panel of a quorum

A panel has members and one answer, which it gives for every name. Its tally says how many
members there are and how many are required; no member is asked, so the tally does not
depend on the name.
-/

namespace GatedResolver.Quorum

/-- The members of a quorum and the answer that they give. -/
structure Panel where
  members : List String
  answer : Answer
  required : Option UInt32
deriving DecidableEq

namespace Panel

/-- The panel that the settings describe. -/
def ofSettings (settings : QuorumSettings) : Panel :=
  ⟨settings.members, ⟨settings.recordType, settings.ttl, settings.data⟩, settings.required⟩

/-- The tally of a panel. -/
def tally (panel : Panel) : Tally :=
  .ofMembers panel.members.length panel.required

/-- What a panel replies about a name. -/
def reply (panel : Panel) (name : Name) : Reply :=
  ⟨name, panel.answer.recordType, panel.answer.ttl, panel.answer.data, panel.members,
    panel.tally⟩

/-- What the operator is told when a panel is set up. -/
def warnings (panel : Panel) : List Warning :=
  (if panel.members.isEmpty then [.emptyQuorum] else []) ++
    if panel.tally.isMet then []
    else [.unreachableQuorum panel.tally.required.toNat panel.members.length]

end Panel

end GatedResolver.Quorum
