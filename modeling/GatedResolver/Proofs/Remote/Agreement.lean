import GatedResolver.Proofs.Remote.Limits

/-!
# Remote services instead of one process

A distributed resolver agrees with one in a single process on what gets through to the remote
services. Components on one host show that both exist, and that three things do not get through: a
decision that is not read back from its own document, a name that is too long for an address, and a
resolution that is too long for a body.
-/

namespace GatedResolver

open Resolver (cacheAfter decisionIn resolved)

namespace Addresses

variable {addresses : Addresses}

/-- A name arrives at the remote services as it was sent, by what they read out of the requests for
it. -/
structure Convey (addresses : Addresses) (name : Name) : Prop where
  lookup : ∃ query,
    (Remote.Message.asking (Remote.withName addresses.cache name.text)).request? =
      some ⟨.get, ⟨"/cache", query⟩, []⟩ ∧ Site.lookupName query = .ok name
  query : ∃ query,
    (Remote.Message.asking (Remote.withName addresses.quorum name.text)).request? =
      some ⟨.get, ⟨"/query", query⟩, []⟩ ∧ ∀ fallback, Http.nameOr query fallback = name
  store : ∀ answer, ∃ body,
    (Remote.Message.carrying addresses.cache (CacheWrite.toJson name answer)).request? =
      some ⟨.post, ⟨"/cache", none⟩, body⟩ ∧ Site.writtenEntry body = .ok (name, answer)

/-- The resolution of each name that is asked for gets through. -/
theorem CarryAll.carry {panel : Quorum.Panel} {file : String} {files : FileSystem} {cache : Cache}
    {moves : List Move} (carried : addresses.CarryAll panel file files cache moves) {name : Name}
    (asked : .asked name ∈ moves) :
    ∃ resolution : Resolution, resolution.name = name ∧ addresses.Carry resolution := by
  induction moves generalizing files cache with
  | nil => cases asked
  | cons move rest inductionHypothesis =>
    cases move with
    | passed files seconds =>
      rcases List.mem_cons.mp asked with wrong | later
      · cases wrong
      · exact inductionHypothesis carried later
    | asked other =>
      rcases List.mem_cons.mp asked with same | later
      · cases same
        exact ⟨_, Resolver.name_resolved _ _ _ _, carried.1⟩
      · exact inductionHypothesis carried.2 later

/-- A name whose resolution gets through arrives as it was sent. -/
theorem Carry.convey {resolution : Resolution} (carried : addresses.Carry resolution)
    (cacheAddressed : Http.Target.ofText addresses.cache = .ok ⟨"/cache", none⟩)
    (quorumAddressed : Http.Target.ofText addresses.quorum = .ok ⟨"/query", none⟩) :
    addresses.Convey resolution.name := by
  constructor
  case lookup =>
    have target := Http.Target.ofText_withName cacheAddressed ⟨by decide, by decide⟩ carried.cache
    exact ⟨_, Remote.request?_eq target, Site.lookupName_encode resolution.name⟩
  case query =>
    have target := Http.Target.ofText_withName quorumAddressed ⟨by decide, by decide⟩ carried.quorum
    exact ⟨_, Remote.request?_eq target, Http.nameOr_encode resolution.name⟩
  case store =>
    intro answer
    exact ⟨_, Remote.request?_eq cacheAddressed, Site.writtenEntry_compact resolution.name answer⟩

end Addresses

section Host

/-- The sites of some components behind one host, by their paths. -/
def Components.host (components : Components) (signer : Receipt.Signer World) :
    Site (StateM World) := fun path =>
  if path = "/policy" then components.policySite path
  else if path = "/query" then components.quorumSite path
  else if path = "/cache" then Components.cacheSite path
  else Site.receipts signer path

/-- Sites that have the same resource under the path of a message do the same with it. -/
theorem Remote.deliver_congr {whole site : Site (StateM World)} {message : Remote.Message}
    (same : ∀ request, message.request? = some request →
      whole request.target.path = site request.target.path) :
    Remote.deliver whole message = Remote.deliver site message := by
  unfold Remote.deliver
  cases arrives : message.request? with
  | none => rfl
  | some request => simp only [Site.respond, Site.answer, same request arrives]

/-- A site serves the addresses of a path if it has the resource of that path. -/
theorem serves_of_path {whole site : Site (StateM World)} {path url : String}
    (same : whole path = site path) (addressed : Http.Target.ofText url = .ok ⟨path, none⟩)
    (located : path ≠ "*" ∧ path ≠ "") : Serves (Remote.deliver whole) site path url := by
  refine ⟨addressed, fun message sent => Remote.deliver_congr fun request arrives => ?_⟩
  obtain ⟨target, found, rfl⟩ := Option.map_eq_some_iff.mp arrives
  have placed : target.path = path := by
    rcases sent with here | ⟨name, here⟩
    · rw [here, addressed] at found
      cases found
      rfl
    · rw [here] at found
      by_cases fits : (Remote.withName url name).utf8ByteSize ≤ Http.Target.sizeLimit
      · rw [Http.Target.ofText_withName addressed located fits] at found
        cases found
        rfl
      · have long : Http.Target.ofText (Remote.withName url name) = .error .tooLong :=
          if_pos (Nat.lt_of_not_le fits)
        rw [long] at found
        cases found
  simp only [placed, same]

/-- Components on one host make a resolver elsewhere a distributed one. -/
theorem Components.distributed_host {components : Components} {key : Receipt.Key}
    {addresses : Addresses} {settings : ResolverSettings}
    (settled : settings.policyUrl = some addresses.policy ∧
      settings.cacheUrl = some addresses.cache ∧ settings.quorumUrl = some addresses.quorum ∧
      settings.receiptUrl = some addresses.receipts)
    (signing : components.signer = some (Filing.signer key))
    (policy : Http.Target.ofText addresses.policy = .ok ⟨"/policy", none⟩)
    (cache : Http.Target.ofText addresses.cache = .ok ⟨"/cache", none⟩)
    (quorum : Http.Target.ofText addresses.quorum = .ok ⟨"/query", none⟩)
    (receipts : Http.Target.ofText addresses.receipts = .ok ⟨"/receipt", none⟩) :
    Distributed components key addresses settings
      (Remote.deliver (components.host (Filing.signer key))) := by
  constructor
  case settled => exact settled
  case signing => exact signing
  case policy => exact serves_of_path rfl policy ⟨by decide, by decide⟩
  case cache => exact serves_of_path rfl cache ⟨by decide, by decide⟩
  case quorum => exact serves_of_path rfl quorum ⟨by decide, by decide⟩
  case receipts =>
    intro site found
    simp only [Components.receiptSite, Components.requireSigner, signing] at found
    cases found
    exact serves_of_path rfl receipts ⟨by decide, by decide⟩

end Host

/-- A distributed resolver agrees with one in a single process on all moves that start in worlds
that are alike, if both ask the same panel and read the same policy file. It takes that what the
moves come to gets through to the remote services, and that no two receipts of a world get one id.
Each name that is asked for arrives at the remote services as it was sent. -/
theorem distributed_agrees {nearComponents farComponents : Components}
    {nearKey farKey : Receipt.Key} {nearSettings farSettings : ResolverSettings}
    {addresses : Addresses} {nearTransport farTransport : Components.Transport}
    (inProcess : InProcess nearComponents nearKey nearSettings)
    (distributed : Distributed farComponents farKey addresses farSettings farTransport)
    (panel : nearComponents.panel = farComponents.panel)
    (file : nearComponents.policyFile = farComponents.policyFile) {near far : World}
    {moves : List Move} (alike : near.Alike far)
    (nearReady : near.Ready (moves.filterMap Move.name?).length)
    (farReady : far.Ready (moves.filterMap Move.name?).length)
    (carried : addresses.CarryAll farComponents.panel farComponents.policyFile far.files far.cache
      moves) :
    ∃ nearResolve farResolve,
      nearComponents.resolver nearSettings nearTransport = .ok nearResolve ∧
      farComponents.resolver farSettings farTransport = .ok farResolve ∧
      Agree nearResolve farResolve near far moves ∧
      ∀ name, .asked name ∈ moves → addresses.Convey name := by
  obtain ⟨nearResolve, nearWired, resolvesNear⟩ := inProcess.resolves nearTransport
  obtain ⟨farResolve, farWired, resolvesFar⟩ := distributed.resolves
  rw [panel, file] at resolvesNear
  refine ⟨nearResolve, farResolve, nearWired, farWired,
    resolvesNear.agree resolvesFar alike nearReady farReady carried, ?_⟩
  intro name asked
  obtain ⟨resolution, rfl, carry⟩ := carried.carry asked
  exact carry.convey distributed.cache.addressed distributed.quorum.addressed

namespace OneHost

/-- Components that read their policy in the file `policy.json`. -/
def components : Components where
  panel := ⟨["quorum-1", "quorum-2"], ⟨"A", 300, "203.0.113.10"⟩, none⟩
  signer := some (Filing.signer ⟨[]⟩)
  policyFile := "policy.json"
  defaultName := ⟨"example.com", by decide⟩

/-- Their addresses. -/
def addresses : Addresses where
  policy := "http://localhost/policy"
  cache := "http://localhost/cache"
  quorum := "http://localhost/query"
  receipts := "http://localhost/receipt"

/-- The settings of a resolver that asks them. -/
def settings : ResolverSettings where
  policyUrl := some addresses.policy
  cacheUrl := some addresses.cache
  quorumUrl := some addresses.quorum
  receiptUrl := some addresses.receipts

/-- Whatever is sent arrives at the host. -/
def transport : Components.Transport :=
  Remote.deliver (components.host (Filing.signer ⟨[]⟩))

/-- A process that has not signed anything yet, with a policy in its file. -/
def worldWith (policy : Bytes) : World where
  files := ⟨⟨[(["policy.json"], .file policy)]⟩, []⟩
  entropy := fun number => Vector.replicate 16 (UInt8.ofNat number)

/-- A name with characters that have a meaning in addresses. -/
def name : Name := ⟨"a b%2B+&=é", by decide⟩

/-- The components make up a resolver in one process. -/
theorem inProcess : InProcess components ⟨[]⟩ {} :=
  ⟨rfl, rfl, rfl, rfl, rfl⟩

/-- The components make up a distributed resolver. -/
theorem distributed : Distributed components ⟨[]⟩ addresses settings transport :=
  Components.distributed_host ⟨rfl, rfl, rfl, rfl⟩ rfl (by decide) (by decide) (by decide)
    (by decide)

/-- The first two ids are different. -/
theorem ready (policy : Bytes) : (worldWith policy).Ready 2 := by
  refine ⟨by simp [worldWith, Table.empty], ?_⟩
  intro first second earlier drawn
  have ends : first = 0 ∧ second = 1 := by
    change second < 2 at drawn
    omega
  rw [ends.1, ends.2]
  exact (by decide : Receipt.idOf ((worldWith []).entropy 0) ≠
    Receipt.idOf ((worldWith []).entropy 1))

/-- A policy with members beside its state. -/
def policy : Bytes :=
  Text.utf8 "\x7b\"state\":\"BLOCK\",\"since\":[2024,-1],\"note\":\"\\u00e9\"\x7d"

/-- A name is resolved twice, and the policy is gone the second time. -/
def askedAgain : List Move :=
  [.asked name, .passed .empty 60, .asked name]

/-- What these moves come to gets through. -/
theorem carried : addresses.CarryAll components.panel components.policyFile (worldWith policy).files
    (worldWith policy).cache askedAgain := by
  have first : addresses.Carry (resolved components.panel
      (decisionIn (worldWith policy).files components.policyFile) name (worldWith policy).cache) :=
    ⟨by decide, by decide, ⟨by decide +kernel, by decide +kernel, by decide +kernel⟩,
      by decide +kernel⟩
  have second : addresses.Carry (resolved components.panel
      (decisionIn .empty components.policyFile) name
      (cacheAfter components.panel name (worldWith policy).cache)) :=
    ⟨by decide, by decide, ⟨by decide +kernel, by decide +kernel, by decide +kernel⟩,
      by decide +kernel⟩
  exact ⟨first, second, trivial⟩

/-- Two resolvers agree on a name that is resolved twice. -/
theorem distributed_agrees_askedAgain :
    ∃ nearResolve farResolve, components.resolver {} transport = .ok nearResolve ∧
      components.resolver settings transport = .ok farResolve ∧
      Agree nearResolve farResolve (worldWith policy) (worldWith policy) askedAgain ∧
      ∀ name, .asked name ∈ askedAgain → addresses.Convey name :=
  distributed_agrees inProcess distributed rfl rfl ⟨rfl, rfl, .refl _⟩ (ready policy) (ready policy)
    carried

/-- A policy that has the reserved key in an object, behind another one. -/
def trap : Bytes :=
  Text.utf8 ("\x7b\"state\":\"ALLOW\",\"x\":\x7b\"a\":null," ++
    "\"$serde_json::private::RawValue\":\"1\"\x7d\x7d")

/-- Its decision, in which the reserved key comes first. -/
def trapped : Policy.Decision :=
  ⟨.allow, [("x", .object [(Json.enclosureKey, .string "1"), ("a", .null)])]⟩

/-- The resolvers do not agree where the reserved key gets to the front of an object. -/
theorem not_agree_trap {nearResolve farResolve : Name → StateM World Resolver.Outcome}
    (nearWired : components.resolver {} transport = .ok nearResolve)
    (farWired : components.resolver settings transport = .ok farResolve) :
    ¬ Agree nearResolve farResolve (worldWith trap) (worldWith trap) [.asked name] := by
  have read : Policy.readFile (worldWith trap).files components.policyFile = .ok trapped := by
    decide +kernel
  have unread : Policy.Decision.decoder.decode trapped.toJson.compact =
      .error (.wrongLength 2 (.exactMembers 1)) := by decide +kernel
  have decided : decisionIn (worldWith trap).files components.policyFile = trapped := by
    rw [decisionIn, read]
    rfl
  exact not_agree_of_unread inProcess distributed nearWired farWired (ready trap).fewer (by decide)
    (by decide) (by decide) decided read unread (by decide +kernel)

/-- A name of so many letters and one more. -/
def longName (count : Nat) : Name where
  text := String.ofList (List.replicate (count + 1) 'a')
  valid := by
    have control : Text.isControl 'a' = false := by decide
    simp [nameFault?, control]

/-- Such a name has more bytes than that. -/
theorem size_longName (count : Nat) : count < (longName count).text.utf8ByteSize := by
  have size := Text.length_toList_le (longName count).text
  simp only [longName, String.toList_ofList, List.length_replicate] at size ⊢
  omega

/-- The resolvers do not agree on a name that is too long for an address. -/
theorem not_agree_longName {nearResolve farResolve : Name → StateM World Resolver.Outcome}
    (nearWired : components.resolver {} transport = .ok nearResolve)
    (farWired : components.resolver settings transport = .ok farResolve) (policy : Bytes) :
    ¬ Agree nearResolve farResolve (worldWith policy) (worldWith policy)
      [.asked (longName Http.Target.sizeLimit)] := by
  have long := size_longName Http.Target.sizeLimit
  exact not_agree_of_longName inProcess distributed nearWired farWired (ready policy).fewer
    (Nat.lt_of_lt_of_le long (Remote.size_le_withName _ _))
    (Nat.lt_of_lt_of_le long (Remote.size_le_withName _ _))

/-- A decision with a note. -/
def noted (text : String) : Policy.Decision :=
  ⟨.allow, [("note", .string text)]⟩

/-- A decision with a note comes back as it was. -/
theorem noted_relayable (text : String) : (noted text).Relayable := by
  refine ⟨rfl, rfl, ?_⟩
  simp [noted, Policy.Decision.toJson, Policy.State.toJson, Json.Value.depth, Json.depthOfMembers,
    Json.depthLimit]

/-- A decision with a note is read from its own document. -/
theorem decisionIn_noted (text : String) :
    decisionIn (worldWith (noted text).toJson.compact).files components.policyFile = noted text := by
  have inOrder : (noted text).InOrder := by
    refine ⟨rfl, by simp [noted], by simp [noted, Json.Ascending], ?_⟩
    intro member belongs
    rw [List.mem_singleton.mp belongs]
    exact .string text
  have relayable := noted_relayable text
  have decoded := (Policy.Decision.reads inOrder relayable.opened).decode_compact
    relayable.integral (Nat.le_of_lt relayable.shallow)
  have found : (worldWith (noted text).toJson.compact).files.read components.policyFile =
      .ok (noted text).toJson.compact := rfl
  rw [decisionIn, Policy.readFile, found]
  simp only [decoded]
  rfl

/-- The resolvers do not agree under a decision whose note is too long for a body. -/
theorem not_agree_noted {nearResolve farResolve : Name → StateM World Resolver.Outcome}
    (nearWired : components.resolver {} transport = .ok nearResolve)
    (farWired : components.resolver settings transport = .ok farResolve) {text : String}
    (long : Site.bodyLimit < text.utf8ByteSize) :
    ¬ Agree nearResolve farResolve (worldWith (noted text).toJson.compact)
      (worldWith (noted text).toJson.compact) [.asked name] := by
  have made : (⟨name, noted text, components.panel.answer, some .quorum⟩ : Resolution) =
      resolved components.panel (decisionIn (worldWith (noted text).toJson.compact).files
        components.policyFile) name (worldWith (noted text).toJson.compact).cache := by
    rw [decisionIn_noted]
    rfl
  have answerFits : (CacheWrite.toJson name components.panel.answer).compact.length ≤
      Site.bodyLimit := by decide +kernel
  refine not_agree_of_longDocument inProcess distributed nearWired farWired (ready _).fewer
    (by decide) (by decide) ⟨rfl, rfl, .refl _⟩ made (noted_relayable text) answerFits ?_
  have note : (Json.Value.string text).spelled.length < (noted text).toJson.spelled.length :=
    Json.length_spelled_lt_of_mem "note" (List.mem_cons_of_mem _ List.mem_cons_self)
  have whole : (noted text).toJson.spelled.length <
      (Resolution.toJson ⟨name, noted text, components.panel.answer, some .quorum⟩).spelled.length :=
    Json.length_spelled_lt_of_mem "policy" (List.mem_cons_of_mem _ List.mem_cons_self)
  have size := Json.size_le_spelledString text
  rw [Json.compact_eq]
  rw [Json.Value.spelled] at note
  omega

/-- Resolvers do not agree on everything, though all numbers of a policy are integers, it is not
nested deep, and no two receipts get one id: not on a policy with the reserved key, not on a name
that is too long for an address, and not on a policy that is too long for a body. -/
theorem distributed_disagrees :
    ∃ nearResolve farResolve, components.resolver {} transport = .ok nearResolve ∧
      components.resolver settings transport = .ok farResolve ∧
      (∀ policy, (worldWith policy).Ready 1) ∧
      (trapped.toJson.isIntegral = true ∧ trapped.toJson.depth < Json.depthLimit ∧
        ¬ Agree nearResolve farResolve (worldWith trap) (worldWith trap) [.asked name]) ∧
      ¬ Agree nearResolve farResolve (worldWith policy) (worldWith policy)
        [.asked (longName Http.Target.sizeLimit)] ∧
      ∃ text, (noted text).toJson.isIntegral = true ∧ (noted text).toJson.depth < Json.depthLimit ∧
        ¬ Agree nearResolve farResolve (worldWith (noted text).toJson.compact)
          (worldWith (noted text).toJson.compact) [.asked name] := by
  obtain ⟨nearResolve, nearWired, -⟩ := inProcess.resolves transport
  obtain ⟨farResolve, farWired, -⟩ := distributed.resolves
  have long := size_longName Site.bodyLimit
  have relayable := noted_relayable (longName Site.bodyLimit).text
  refine ⟨nearResolve, farResolve, nearWired, farWired, fun policy => (ready policy).fewer,
    ⟨by decide, by decide, not_agree_trap nearWired farWired⟩,
    not_agree_longName nearWired farWired policy, (longName Site.bodyLimit).text,
    relayable.integral, relayable.shallow, not_agree_noted nearWired farWired long⟩

end OneHost

end GatedResolver
