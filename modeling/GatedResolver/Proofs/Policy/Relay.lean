import GatedResolver.Proofs.Json.Forms
import GatedResolver.Proofs.Policy.Documents
import GatedResolver.Proofs.Remote.Agreement

/-!
# Decisions are relayed

A decision in a file is served as it is read, and a resolver that reads the file goes on with that
decision from stage to stage (`Stage.Under`), so that every resolution it comes to has it. Together
with what a document is read as, the decision of a document gets to the clients without loss
(`documents_relayed`), unless an object in the document begins with the key of enclosures.
-/

namespace GatedResolver

open Resolver (Collaborators Stage)

section Carried

variable {collaborators : Collaborators (StateM World)} (request : Resolver.Request)

/-- A request goes on under a decision: it is the one that the stage has, and the one that the
resolution has in the end. Before the policy was asked for, the files are those of the beginning. -/
def Resolver.Stage.Under (decision : Policy.Decision) (begun : FileSystem) (world : World) :
    Stage → Prop
  | .policy => world.files = begun
  | .lookup known | .query known | .fill known _ => known = decision
  | .submit resolution => resolution.policy = decision
  | .finished outcome => ∀ resolution, outcome = .ok resolution → resolution.policy = decision

/-- A request comes to a resolution under the decision that is in the files at its beginning. -/
theorem Resolver.policy_of_run {decision : Policy.Decision} {world : World}
    (decided : ∀ current : World, current.files = world.files →
      (collaborators.policy current).1.reply?.getD .unknown = decision) {resolution : Resolution}
    (found : (Resolver.run collaborators World.warn request world).1 = .ok resolution) :
    resolution.policy = decision := by
  have under := run_preserves collaborators World.warn request
    (fun stage current => stage.Under decision world.files current) ?_ ?_ world rfl
  · exact under resolution found
  · intro stage current under
    cases stage with
    | policy =>
      change (afterPolicy request (collaborators.policy current).1).1.Under _ _ _
      rw [afterPolicy_fst]
      exact decided current under
    | lookup policy =>
      change (afterLookup request policy (collaborators.lookup request.name current).1).1.Under _ _ _
      rw [afterLookup_fst]
      split <;> exact under
    | query policy =>
      change (afterQuery request policy (collaborators.query request.name current).1).1.Under _ _ _
      rw [afterQuery_fst]
      split
      · exact under
      · exact fun resolution failed => nomatch failed
    | fill policy answer =>
      change (afterFill request policy answer
        (collaborators.fill request.name answer current).1).1.Under _ _ _
      rw [afterFill_fst]
      exact under
    | submit resolution =>
      change (afterSubmit request resolution (collaborators.submit resolution current).1).1.Under _ _ _
      rw [afterSubmit_fst]
      intro other same
      cases same
      exact under
    | finished outcome => exact under
  · intro stage warning current under
    cases stage <;> exact under

end Carried

namespace Policy.Decision

variable {text : Bytes} {decision : Decision}

/-- A decision is read from a file that holds a text from which it is read. -/
theorem readFile_of_decode {files : FileSystem} {path : String} (held : files.read path = .ok text)
    (decoded : decoder.decode text = .ok decision) : readFile files path = .ok decision := by
  rw [readFile, held]
  simp only [decoded]

/-- A decision gets to the clients of some components: it is served as it is, and every resolution
by a resolver that reads the policy file has it. -/
structure Relayed (decision : Decision) (components : Components) (world : World) : Prop where
  served : ∀ query body, components.policySite.respond ⟨.get, ⟨"/policy", query⟩, body⟩ world =
    (.json 200 decision.toJson, world)
  resolved : ∀ {settings transport resolve}, settings.policyUrl = none →
    components.policyFile.isEmpty = false → components.resolver settings transport = .ok resolve →
    ∀ name resolution, (resolve name world).1 = .ok resolution → resolution.policy = decision

/-- The decision in the policy file is relayed. -/
theorem relayed_of_readFile {components : Components} {world : World}
    (read : readFile world.files components.policyFile = .ok decision) :
    decision.Relayed components world where
  served query body := by
    change ((Site.serveDecision (readFile world.files components.policyFile), world) :
      Http.Response × World) = _
    rw [read]
    rfl
  resolved := by
    intro settings transport resolve near present wired name resolution found
    obtain ⟨collaborators, joined, rfl⟩ := ok_of_map wired
    obtain ⟨submit, -, rfl⟩ := ok_of_map joined
    refine Resolver.policy_of_run ⟨name, settings.timeoutMs.toNat⟩ (fun current same => ?_) found
    change (Components.ending (components.policyCall settings transport current).1).reply?.getD
      .unknown = decision
    rw [Components.policyCall, near]
    simp only [present, Bool.false_eq_true, if_false, same, read]
    rfl

/-- Decisions are relayed without loss. A decision is read only from a document of a decision; its
state is the one that stands there, its value is the one that a reader of any values makes of the
document, up to the order of members, and components with the document in their policy file relay
it. From each document of a decision, unless an object in one of its members begins with the key of
enclosures, a decision is read that has for every key what the document has; and a reader of any
values reads the document, unless it begins with that key itself. A text is a document of a decision
if it follows the grammar with an object of the right depth and members, no numeral of it is too
large for a number, and no half of a surrogate pair stands alone in one of its strings. -/
theorem documents_relayed (text : Bytes) :
    (∀ decision, decoder.decode text = .ok decision →
      (∃ members state, IsDocument text members state ∧ decision.state.text = state) ∧
      (∀ value, Json.Value.ofText text = .ok value → decision.toJson.Rearranged value) ∧
      ∀ components world, world.files.read components.policyFile = .ok text →
        decision.Relayed components world) ∧
    (∀ members state, IsDocument text members state → (∀ member ∈ members, member.2.isOpen = true) →
      ∃ decision, decoder.decode text = .ok decision ∧ decision.Reflects members state ∧
        (Json.beginsEnclosure members = false → ∃ value, Json.Value.ofText text = .ok value)) ∧
    ∀ written state, (Json.Form.object written).IsText text →
      (Json.Form.object written).InRange → (Json.Form.object written).Paired →
      let members := Json.membersOf written
      (Json.Value.object members).depth ≤ Json.depthLimit →
      members.filter (fun member => member.1 == "state") = [("state", .string state)] →
      IsDocument text members state := by
  refine ⟨?_, ?_, ?_⟩
  · intro decision decoded
    obtain ⟨front, state, back, extra, document, -, -, made⟩ := exists_isDocument decoded
    refine ⟨⟨_, state, document, by rw [made, text_ofText]⟩,
      fun value => rearranged_of_decode decoded,
      fun components world held => relayed_of_readFile (readFile_of_decode held decoded)⟩
  · intro members state document opened
    obtain ⟨decision, decoded, reflects⟩ := document.decoded opened
    refine ⟨decision, decoded, reflects, fun plain => ?_⟩
    have whole : (Json.Value.object members).isOpen = true :=
      Json.every_object.mpr ⟨by simp [Json.notEnclosure, plain], opened⟩
    exact ⟨_, document.isText.valueOfText whole document.shallow⟩
  · intro written state isText inRange paired members shallow single
    exact ⟨isText.value inRange paired, shallow, single⟩

/-- The members of a document with a state of its own, and with notes one of which is replaced. -/
def reviewedTwice : List Json.Member :=
  [("note", .null), ("state", .string "REVIEW"),
    ("note", .object [("b", .ofInt64 1), ("a", .array []), ("b", .ofInt64 (-2))])]

/-- Their document is relayed. -/
theorem documents_relayed_reviewedTwice :
    let text := Text.utf8 ("\x7b\"note\":null,\"state\":\"REVIEW\"," ++
      "\"note\":\x7b\"b\":1,\"a\":[],\"b\":-2\x7d\x7d")
    let world := OneHost.worldWith text
    ∃ decision, decoder.decode text = .ok decision ∧ decision.Reflects reviewedTwice "REVIEW" ∧
      (∃ value, Json.Value.ofText text = .ok value ∧ decision.toJson.Rearranged value) ∧
      decision.Relayed OneHost.components world ∧
      ∃ resolve resolution, OneHost.components.resolver {} OneHost.transport = .ok resolve ∧
        (resolve OneHost.name world).1 = .ok resolution ∧ resolution.policy = decision := by
  intro text world
  have written : (Json.Value.object reviewedTwice).compact = text := by decide +kernel
  have document : IsDocument text reviewedTwice "REVIEW" :=
    ⟨written ▸ Json.isText_compact (by decide), by decide, by decide⟩
  obtain ⟨decision, decoded, reflects, read⟩ :=
    (documents_relayed text).2.1 reviewedTwice "REVIEW" document (by decide)
  obtain ⟨value, valueRead⟩ := read (by decide)
  obtain ⟨-, rearranged, relays⟩ := (documents_relayed text).1 decision decoded
  have relayed := relays OneHost.components world rfl
  obtain ⟨resolve, wired, -⟩ := OneHost.inProcess.resolves OneHost.transport
  obtain ⟨resolution, -, found, -⟩ := OneHost.inProcess.settles wired (OneHost.ready text).fewer
    OneHost.name
  exact ⟨decision, decoded, reflects, ⟨value, valueRead, rearranged value valueRead⟩, relayed,
    resolve, resolution, wired, found, relayed.resolved rfl rfl wired OneHost.name resolution found⟩

/-- The members of a document in which an object begins with the key of enclosures. -/
def enclosing : List Json.Member :=
  [("state", .string "ALLOW"), ("x", .object [(Json.enclosureKey, .ofInt64 1)])]

/-- No decision is read from their document. -/
theorem documents_lose_enclosing :
    let text := Text.utf8 ("\x7b\"state\":\"ALLOW\"," ++
      "\"x\":\x7b\"$serde_json::private::RawValue\":1\x7d\x7d")
    IsDocument text enclosing "ALLOW" ∧ ∀ decision, decoder.decode text ≠ .ok decision := by
  intro text
  have written : (Json.Value.object enclosing).compact = text := by decide +kernel
  have refused : decoder.decode text = .error (.wrongType (.integer 1) .enclosedText) := by
    decide +kernel
  refine ⟨⟨written ▸ Json.isText_compact (by decide), by decide, by decide⟩, ?_⟩
  intro decision decoded
  rw [refused] at decoded
  cases decoded

end Policy.Decision

end GatedResolver
