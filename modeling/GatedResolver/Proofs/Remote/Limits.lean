import GatedResolver.Proofs.Remote.Refinement

/-!
# What does not get through to remote services

A distributed resolver stops being like one in a single process as soon as something does not get
through: a name that is too long for the addresses has no answer, a decision that does not come
back is unknown, and a resolution that is too long for a body has no receipt.
-/

namespace GatedResolver

open Http (Target)
open Resolver (Collaborators Stage decisionIn resolved)

section Unanswered

variable {collaborators : Collaborators (StateM World)} (request : Resolver.Request)

/-- A request without an answer so far has none in the end, if it gets none. -/
def Resolver.Stage.Unanswered (request : Resolver.Request) : Stage → Prop
  | .policy | .lookup _ | .query _ => True
  | .fill _ _ | .submit _ => False
  | .finished outcome => outcome = .error (.unanswered request.name.text)

/-- A request for a name that neither the cache nor the quorum has an answer for is unanswered. -/
theorem Resolver.run_unanswered
    (missed : ∀ world, (collaborators.lookup request.name world).1.reply?.join = none)
    (silent : ∀ world, (collaborators.query request.name world).1.reply? = none) (world : World) :
    (Resolver.run collaborators World.warn request world).1 =
      .error (.unanswered request.name.text) := by
  refine run_preserves collaborators World.warn request
    (fun stage _ => stage.Unanswered request) ?_ (fun _ _ _ same => same) world trivial
  intro stage current unanswered
  cases stage with
  | policy =>
    change (afterPolicy request (collaborators.policy current).1).1.Unanswered request
    rw [afterPolicy_fst]
    trivial
  | lookup decision =>
    change (afterLookup request _ (collaborators.lookup request.name current).1).1.Unanswered request
    rw [afterLookup_fst, missed]
    trivial
  | query decision =>
    change (afterQuery request _ (collaborators.query request.name current).1).1.Unanswered request
    rw [afterQuery_fst, silent]
    rfl
  | fill decision answer => exact unanswered.elim
  | submit resolution => exact unanswered.elim
  | finished outcome => exact unanswered

end Unanswered

/-- An address that names something is no shorter than that name. -/
theorem Remote.size_le_withName (url name : String) :
    name.utf8ByteSize ≤ (Remote.withName url name).utf8ByteSize := by
  have encoded := Http.Form.size_le_encodeText name
  have query : (Http.Form.encodePair ("name", name)).length =
      (Http.Form.encode [("name", name)]).toList.length := by rw [Http.Form.toList_encode]
  have whole := Text.length_toList_le (Remote.withName url name)
  simp only [Remote.withName, Remote.withPair, String.toList_ofList, List.length_append] at whole ⊢
  simp only [Http.Form.encodePair, List.length_append, List.length_cons] at query
  omega

/-- An address that is too long for a target is not asked. -/
theorem Remote.Delivers.failed {transport : Components.Transport} {site : Site (StateM World)}
    {url name : String} (delivers : Remote.Delivers transport site url)
    (long : Target.sizeLimit < (Remote.withName url name).utf8ByteSize) (world : World) :
    transport (.asking (Remote.withName url name)) world = (.failed, world) := by
  have target : Target.ofText (Remote.withName url name) = .error .tooLong := if_pos long
  rw [delivers _ (.inr ⟨name, rfl⟩), Remote.deliver, Remote.Message.request?, Remote.Message.asking,
    target]
  rfl

section Distributed

variable {components : Components} {key : Receipt.Key} {addresses : Addresses}
  {settings : ResolverSettings} {transport : Components.Transport}
  {collaborators : Collaborators (StateM World)}

/-- A distributed resolver has no answer for a name that is too long for the addresses of the cache
and of the quorum. -/
theorem Distributed.unanswered
    (distributed : Distributed components key addresses settings transport)
    (wired : components.collaborators settings transport = .ok collaborators) {name : Name}
    (cacheLong : Target.sizeLimit < (Remote.withName addresses.cache name.text).utf8ByteSize)
    (quorumLong : Target.sizeLimit < (Remote.withName addresses.quorum name.text).utf8ByteSize)
    (limitMs : Nat) (world : World) :
    (Resolver.run collaborators World.warn ⟨name, limitMs⟩ world).1 =
      .error (.unanswered name.text) := by
  obtain ⟨-, cacheUrl, quorumUrl, -⟩ := distributed.settled
  obtain ⟨submit, -, rfl⟩ := Components.submitCall_of_wired wired
  refine Resolver.run_unanswered ⟨name, limitMs⟩ ?_ ?_ world
  · intro current
    have failed := distributed.cache.delivers.failed cacheLong current
    simp only [Components.lookupCall, cacheUrl]
    change (Components.ending (Remote.Client.valueIfFound _ _ _
      (transport (.asking (Remote.withName addresses.cache name.text)) current).1)).reply?.join = none
    rw [failed]
    rfl
  · intro current
    have failed := distributed.quorum.delivers.failed quorumLong current
    simp only [Components.queryCall, quorumUrl]
    change (Components.ending (Remote.Client.value _ _ _
      (transport (.asking (Remote.withName addresses.quorum name.text)) current).1)).reply? = none
    rw [failed]
    rfl

/-- A distributed resolver takes a decision to be unknown if that is not read back from its own
document. -/
theorem Distributed.policyCall_unread
    (distributed : Distributed components key addresses settings transport) {world : World}
    {decision : Policy.Decision}
    (read : Policy.readFile world.files components.policyFile = .ok decision) {fault : Json.Fault}
    (unread : Policy.Decision.decoder.decode decision.toJson.compact = .error fault) :
    (components.policyCall settings transport world).1.toOption.getD .unknown = .unknown ∧
      (components.policyCall settings transport world).2 = world := by
  have exchanged := distributed.policy.delivers.exchange (.asking addresses.policy) (.inl rfl)
    distributed.policy.addressed (by simp [Remote.Message.asking])
    (Components.policySite_answer world [])
  rw [read] at exchanged
  simp only [Components.policyCall, distributed.settled.1]
  change ((Remote.policyClient addresses.policy settings.timeoutMs.toNat).value
      Policy.Decision.decoder (.asking addresses.policy)
      (transport (.asking addresses.policy) world).1).toOption.getD .unknown = .unknown ∧
    (transport (.asking addresses.policy) world).2 = world
  rw [exchanged]
  refine ⟨?_, rfl⟩
  simp only [Remote.Client.value, Remote.Client.received, bind, Except.bind, Site.serveDecision,
    Http.Response.json, Remote.Client.decoded, unread]
  rfl

/-- A remote receipt service does not file a resolution that is too long for a body. -/
theorem Distributed.unfiled
    (distributed : Distributed components key addresses settings transport) {resolution : Resolution}
    (long : Site.bodyLimit < resolution.toJson.compact.length) (limitMs : Nat) (world : World) :
    (Remote.submitReceipt transport (Remote.receiptClient addresses.receipts limitMs) resolution
      world).2 = world := by
  have serves := distributed.serves_receipts
  have refused : (Site.receipts (Filing.signer key)).answer
      ⟨.post, ⟨"/receipt", none⟩, resolution.toJson.compact⟩ world =
      (.text 413 "Failed to buffer the request body: length limit exceeded", world) := by
    change Site.takeBody (Site.submitRecord _) _ world = _
    simp only [Site.takeBody, if_pos long]
    rfl
  have exchanged := serves.delivers.exchange (.carrying addresses.receipts resolution.toJson)
    (.inl rfl) serves.addressed (by simp [Remote.Message.carrying]) refused
  exact congrArg Prod.snd exchanged

/-- A distributed resolver comes to the resolution under the decision that the policy service
replies with, for a name that fits into the addresses. -/
theorem Distributed.run_of_reply
    (distributed : Distributed components key addresses settings transport)
    (wired : components.collaborators settings transport = .ok collaborators) {world : World}
    {name : Name} {decision : Policy.Decision} {resolution : Resolution} {filed : World → World}
    (made : resolution = resolved components.panel decision name world.cache)
    (replied : ∀ current : World, current.files = world.files →
      (components.policyCall settings transport current).1.toOption.getD .unknown = decision ∧
        (components.policyCall settings transport current).2 = current)
    (cacheFits : (Remote.withName addresses.cache name.text).utf8ByteSize ≤ Target.sizeLimit)
    (quorumFits : (Remote.withName addresses.quorum name.text).utf8ByteSize ≤ Target.sizeLimit)
    (answerFits : (CacheWrite.toJson name resolution.answer).compact.length ≤ Site.bodyLimit)
    (handed : ∀ current, (Remote.submitReceipt transport
      (Remote.receiptClient addresses.receipts settings.timeoutMs.toNat) resolution current).2 =
        filed current) (limitMs : Nat) :
    ∃ before after, Resolver.run collaborators World.warn ⟨name, limitMs⟩ world =
      (.ok resolution, { filed { world with
        cache := Resolver.cacheAfter components.panel resolution.name world.cache
        warnings := before } with warnings := after }) := by
  have named : resolution.name = name := made ▸ Resolver.name_resolved _ _ _ _
  have decided : resolution.policy = decision := made ▸ Resolver.policy_resolved _ _ _ _
  rw [← named] at cacheFits quorumFits answerFits
  rw [← decided] at replied
  have reliable := distributed.reliable_of_reply wired replied cacheFits quorumFits answerFits handed
  refine Resolver.run_of_reliable ⟨name, limitMs⟩ ?_ reliable named.symm
  rw [decided, named]
  exact made

end Distributed

/-- What it takes to agree on a single name. -/
theorem Agree.asked {nearResolve farResolve : Name → StateM World Resolver.Outcome}
    {near far : World} {name : Name} (agree : Agree nearResolve farResolve near far [.asked name]) :
    (nearResolve name near).1 = (farResolve name far).1 ∧
      (nearResolve name near).2.Alike (farResolve name far).2 := by
  obtain ⟨⟨same, alike⟩, -⟩ := List.forall₂_cons.mp agree
  exact ⟨Option.some.inj same, alike⟩

section Disagreement

variable {nearComponents farComponents : Components} {nearKey farKey : Receipt.Key}
  {nearSettings farSettings : ResolverSettings} {addresses : Addresses}
  {nearTransport farTransport : Components.Transport}
  {nearResolve farResolve : Name → StateM World Resolver.Outcome}
  (inProcess : InProcess nearComponents nearKey nearSettings)
  (distributed : Distributed farComponents farKey addresses farSettings farTransport)
  (nearWired : nearComponents.resolver nearSettings nearTransport = .ok nearResolve)
  (farWired : farComponents.resolver farSettings farTransport = .ok farResolve)
  {near far : World} (ready : near.Ready 1)

include inProcess nearWired ready

/-- A resolver in one process has a resolution for each name, and files it. -/
theorem InProcess.settles (name : Name) : ∃ resolution, resolution =
      resolved nearComponents.panel (decisionIn near.files nearComponents.policyFile) name near.cache ∧
    (nearResolve name near).1 = .ok resolution ∧
    (nearResolve name near).2.records = near.records ++ [Filing.recordOf resolution] := by
  obtain ⟨resolve, wired, resolves⟩ := inProcess.resolves nearTransport
  cases nearWired.symm.trans wired
  obtain ⟨after, ends, settled⟩ := resolves name near 0 ready trivial
  rw [ends]
  exact ⟨_, rfl, rfl, settled.records⟩

variable {name : Name}
include distributed farWired

/-- The resolvers do not agree on a name that is too long for the addresses. -/
theorem not_agree_of_longName
    (cacheLong : Target.sizeLimit < (Remote.withName addresses.cache name.text).utf8ByteSize)
    (quorumLong : Target.sizeLimit < (Remote.withName addresses.quorum name.text).utf8ByteSize) :
    ¬ Agree nearResolve farResolve near far [.asked name] := by
  intro agree
  obtain ⟨resolution, -, found, -⟩ := inProcess.settles nearWired ready name
  obtain ⟨collaborators, wired, rfl⟩ := ok_of_map farWired
  have unanswered := distributed.unanswered wired cacheLong quorumLong
    farSettings.timeoutMs.toNat far
  have same := agree.asked.1
  rw [found, unanswered] at same
  cases same

variable (cacheFits : (Remote.withName addresses.cache name.text).utf8ByteSize ≤ Target.sizeLimit)
  (quorumFits : (Remote.withName addresses.quorum name.text).utf8ByteSize ≤ Target.sizeLimit)
include cacheFits quorumFits

/-- The resolvers do not agree if the policy that is in force is not read back from its own
document. -/
theorem not_agree_of_unread {decision : Policy.Decision} (known : decision ≠ .unknown)
    (nearRead : decisionIn near.files nearComponents.policyFile = decision)
    (farRead : Policy.readFile far.files farComponents.policyFile = .ok decision)
    {fault : Json.Fault}
    (unread : Policy.Decision.decoder.decode decision.toJson.compact = .error fault)
    (answerFits : (CacheWrite.toJson name
      (resolved farComponents.panel .unknown name far.cache).answer).compact.length ≤
        Site.bodyLimit) :
    ¬ Agree nearResolve farResolve near far [.asked name] := by
  intro agree
  obtain ⟨resolution, made, found, -⟩ := inProcess.settles nearWired ready name
  obtain ⟨collaborators, wired, rfl⟩ := ok_of_map farWired
  obtain ⟨before, after, ends⟩ := distributed.run_of_reply wired rfl
    (fun current here => distributed.policyCall_unread (here ▸ farRead) unread) cacheFits quorumFits
    answerFits (fun current => rfl) farSettings.timeoutMs.toNat
  have same := agree.asked.1
  rw [found, ends] at same
  have policies := congrArg Resolution.policy (Except.ok.inj same)
  rw [made, Resolver.policy_resolved, Resolver.policy_resolved, nearRead] at policies
  exact known policies

/-- The resolvers do not agree on a resolution that is too long for a body. -/
theorem not_agree_of_longDocument (alike : near.Alike far) {resolution : Resolution}
    (made : resolution = resolved farComponents.panel
      (decisionIn far.files farComponents.policyFile) name far.cache)
    (relayable : resolution.policy.Relayable)
    (answerFits : (CacheWrite.toJson name resolution.answer).compact.length ≤ Site.bodyLimit)
    (long : Site.bodyLimit < resolution.toJson.compact.length) :
    ¬ Agree nearResolve farResolve near far [.asked name] := by
  intro agree
  obtain ⟨nearResolution, -, -, filed⟩ := inProcess.settles nearWired ready name
  obtain ⟨collaborators, wired, rfl⟩ := ok_of_map farWired
  have decided : resolution.policy = decisionIn far.files farComponents.policyFile :=
    made ▸ Resolver.policy_resolved _ _ _ _
  have replied : ∀ current : World, current.files = far.files →
      (farComponents.policyCall farSettings farTransport current).1.toOption.getD .unknown =
          decisionIn far.files farComponents.policyFile ∧
        (farComponents.policyCall farSettings farTransport current).2 = current := by
    intro current here
    rw [← here] at decided ⊢
    exact distributed.policyCall_eq current (decided ▸ relayable)
  obtain ⟨before, after, ends⟩ := distributed.run_of_reply wired made replied cacheFits quorumFits
    answerFits (distributed.unfiled long _) farSettings.timeoutMs.toNat
  have unfiled : (Resolver.run collaborators World.warn
      ⟨name, farSettings.timeoutMs.toNat⟩ far).2.records = far.records := by
    rw [ends]
    rfl
  have lengths := agree.asked.2.records.length_eq
  rw [filed, unfiled, List.length_append, alike.records.length_eq, List.length_singleton] at lengths
  omega

end Disagreement

end GatedResolver
