import GatedResolver.Proofs.Remote.Sites

/-!
# Calls to remote services

What a client makes of the answer of a site, and so what each call of the resolver gives, and
changes, when its message is delivered.
-/

namespace GatedResolver.Remote

open Http (Target)

section Client

variable {α : Type} (client : Client) (message : Message) {decoder : Json.Decoder α}
  {value : Json.Value} {result : α} (decodes : decoder.decode value.compact = .ok result)
include decodes

/-- A client has the value in the document that comes with a success. -/
theorem value_of_json :
    client.value decoder message (.answered (Http.Response.json 200 value).status
      (.whole (Http.Response.json 200 value).body)) = .ok result := by
  simp only [Client.value, Client.received, bind, Except.bind, Http.Response.json,
    Client.decoded, decodes]
  rfl

/-- A client has the value in the document that comes with a success where there may be none. -/
theorem valueIfFound_of_json :
    client.valueIfFound decoder message (.answered (Http.Response.json 200 value).status
      (.whole (Http.Response.json 200 value).body)) = .ok (some result) := by
  simp only [Client.valueIfFound, Client.received, bind, Except.bind, Http.Response.json,
    Client.decoded, decodes]
  rfl

omit decodes in

/-- A client has no value if the request did not succeed. -/
theorem value_of_failure {status : Nat} (failed : Http.isSuccess status = false) (body : Bytes) :
    client.value decoder message (.answered status (.whole body)) =
      .error (client.wrongStatus status) := by
  simp only [Client.value, Client.received, bind, Except.bind, failed, Bool.false_eq_true, if_false]
  rfl

end Client

/-- Whatever is sent to an address, with a name or without one, is delivered to a site. -/
def Delivers (transport : Components.Transport) (site : Site (StateM World)) (url : String) :
    Prop :=
  ∀ message, (message.url = url ∨ ∃ name, message.url = withName url name) →
    transport message = deliver site message

/-- What is sent to an address gets the answer of the site behind it. -/
theorem Delivers.exchange {transport : Components.Transport} {site : Site (StateM World)}
    {url : String} (delivers : Delivers transport site url) (message : Message) {target : Target}
    (sent : message.url = url ∨ ∃ name, message.url = withName url name)
    (addressed : Target.ofText message.url = .ok target) (whole : message.method ≠ .head)
    {world after : World} {response : Http.Response}
    (answers : site.answer ⟨message.method, target, message.body⟩ world = (response, after)) :
    transport message world = (.answered response.status (.whole response.body), after) := by
  rw [delivers message sent]
  exact deliver_eq addressed whole answers

section Calls

variable {components : Components} {transport : Components.Transport} {url : String}
  (limitMs : Nat)

/-- A client that asks for the policy has the decision in the file, if there is one. -/
theorem askPolicy_delivered (delivers : Delivers transport components.policySite url)
    (addressed : Target.ofText url = .ok ⟨"/policy", none⟩) (world : World)
    (relayable : ∀ decision, Policy.readFile world.files components.policyFile = .ok decision →
      decision.Relayable) :
    (askPolicy transport (policyClient url limitMs) world).1.toOption =
        (Policy.readFile world.files components.policyFile).toOption ∧
      (askPolicy transport (policyClient url limitMs) world).2 = world := by
  have exchanged := delivers.exchange (.asking url) (.inl rfl) addressed
    (by simp [Message.asking]) (Components.policySite_answer world [])
  have asked : askPolicy transport (policyClient url limitMs) world =
      ((policyClient url limitMs).value Policy.Decision.decoder (.asking url)
        (transport (.asking url) world).1, (transport (.asking url) world).2) := rfl
  rw [asked, exchanged]
  refine ⟨?_, rfl⟩
  cases read : Policy.readFile world.files components.policyFile with
  | error failure =>
    simp only [Site.serveDecision]
    have failed : Http.isSuccess (Http.Response.ofFailure failure).status = false :=
      isSuccess_failureStatus failure
    rw [value_of_failure _ _ failed]
    rfl
  | ok decision =>
    have decodes := Policy.Decision.decode_compact read (relayable decision read)
    simp only [Site.serveDecision]
    rw [value_of_json _ _ decodes]

/-- A client that asks the cache for a name has the answer for that name, if there is one. -/
theorem askCache_delivered (delivers : Delivers transport Components.cacheSite url)
    (addressed : Target.ofText url = .ok ⟨"/cache", none⟩) {name : Name}
    (fits : (withName url name.text).utf8ByteSize ≤ Target.sizeLimit) (world : World) :
    askCache transport (cacheClient url limitMs) name world =
      (.ok (world.cache.find? name), { world with cache := (world.cache.get name).2 }) := by
  have exchanged := delivers.exchange (.asking (withName url name.text)) (.inr ⟨_, rfl⟩)
    (Target.ofText_withName addressed ⟨by decide, by decide⟩ fits) (by simp [Message.asking])
    (Components.cacheSite_lookup name world [])
  have asked : askCache transport (cacheClient url limitMs) name world =
      ((cacheClient url limitMs).valueIfFound Answer.decoder (.asking (withName url name.text))
        (transport (.asking (withName url name.text)) world).1,
        (transport (.asking (withName url name.text)) world).2) := rfl
  rw [asked, exchanged]
  refine Prod.ext ?_ rfl
  cases found : world.cache.find? name with
  | none => rfl
  | some answer =>
    have decodes := answer.reads.decode_compact rfl (by
      simp [Answer.toJson, Json.Value.depth, Json.depthOfMembers, Json.Value.ofUInt32,
        Json.depthLimit])
    exact valueIfFound_of_json _ _ decodes

/-- A client that stores an answer at the cache stores it there. -/
theorem fillCache_delivered (delivers : Delivers transport Components.cacheSite url)
    (addressed : Target.ofText url = .ok ⟨"/cache", none⟩) {name : Name} {answer : Answer}
    (fits : (CacheWrite.toJson name answer).compact.length ≤ Site.bodyLimit) (world : World) :
    fillCache transport (cacheClient url limitMs) name answer world =
      (.ok (), { world with cache := world.cache.put name answer }) := by
  have exchanged := delivers.exchange (.carrying url (CacheWrite.toJson name answer))
    (.inl rfl) addressed (by simp [Message.carrying]) (Components.cacheSite_store fits world)
  have asked : fillCache transport (cacheClient url limitMs) name answer world =
      ((cacheClient url limitMs).accepted (.carrying url (CacheWrite.toJson name answer))
        (transport (.carrying url (CacheWrite.toJson name answer)) world).1,
        (transport (.carrying url (CacheWrite.toJson name answer)) world).2) := rfl
  rw [asked, exchanged]
  rfl

/-- A client that asks the quorum about a name has the reply of the panel about that name. -/
theorem askQuorum_delivered (delivers : Delivers transport components.quorumSite url)
    (addressed : Target.ofText url = .ok ⟨"/query", none⟩) {name : Name}
    (fits : (withName url name.text).utf8ByteSize ≤ Target.sizeLimit) (world : World) :
    askQuorum transport (quorumClient url limitMs) name world =
      (.ok (components.panel.reply name), world) := by
  have exchanged := delivers.exchange (.asking (withName url name.text)) (.inr ⟨_, rfl⟩)
    (Target.ofText_withName addressed ⟨by decide, by decide⟩ fits) (by simp [Message.asking])
    (Components.quorumSite_answer name world [])
  have asked : askQuorum transport (quorumClient url limitMs) name world =
      ((quorumClient url limitMs).value Quorum.Reply.decoder (.asking (withName url name.text))
        (transport (.asking (withName url name.text)) world).1,
        (transport (.asking (withName url name.text)) world).2) := rfl
  have decodes := (components.panel.reply name).reads.decode_compact
    (components.panel.reply name).isIntegral_toJson (components.panel.reply name).depth_toJson_le
  rw [asked, exchanged, value_of_json _ _ decodes]

/-- A client that hands in a resolution hands in its record. -/
theorem submitReceipt_delivered {signer : Receipt.Signer World}
    (delivers : Delivers transport (Site.receipts signer) url)
    (addressed : Target.ofText url = .ok ⟨"/receipt", none⟩) {resolution : Resolution}
    (relayable : resolution.policy.Relayable)
    (fits : resolution.toJson.compact.length ≤ Site.bodyLimit) (world : World) :
    (submitReceipt transport (receiptClient url limitMs) resolution world).2 =
      (signer.submit (Filing.recordOf resolution) world).2 := by
  have submitted := Components.receiptSite_answer signer relayable fits world
  obtain ⟨response, after, answers⟩ : ∃ response after, (Site.receipts signer).answer
      ⟨.post, ⟨"/receipt", none⟩, resolution.toJson.compact⟩ world = (response, after) :=
    ⟨_, _, rfl⟩
  have exchanged := delivers.exchange (.carrying url resolution.toJson) (.inl rfl)
    addressed (by simp [Message.carrying]) answers
  have asked : (submitReceipt transport (receiptClient url limitMs) resolution world).2 =
      (transport (.carrying url resolution.toJson) world).2 := rfl
  rw [answers] at submitted
  rw [asked, exchanged]
  exact submitted

end Calls

end GatedResolver.Remote
