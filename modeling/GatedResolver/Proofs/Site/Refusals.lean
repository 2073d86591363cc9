import GatedResolver.Proofs.Deployment.Built
import GatedResolver.Proofs.Remote.Sites

/-!
# How requests are refused

The handlers of a site refuse requests in one form, a notice of what went wrong (`TellsError`), and
so does a site that has no handler for a request. Two refusals come before a handler has its turn
and are plain text: a body that is too large is not handed on, and neither is a segment whose bytes
are no UTF-8 (`Rejected`). `Components.refusal_of_listener` says that there are no others, whatever
the service is and whatever state its process is in.
-/

namespace GatedResolver

open Http (Request Response)

namespace Site

/-- A response whose body is a notice of what went wrong. -/
def TellsError (response : Response) : Prop :=
  ∃ message, Json.Value.ofText response.body = .ok (.object [("error", .string message)])

/-- A response that is no refusal, or tells what went wrong. -/
def Settled (response : Response) : Prop :=
  400 ≤ response.status → response.contentType = some Http.jsonType ∧ TellsError response

section Responses

/-- A notice of what went wrong is read as such, whatever the message is. -/
theorem tellsError_error (status : Nat) (message : String) :
    TellsError (Response.error status message) := by
  refine ⟨message, Json.valueOfText_compact rfl rfl ?_⟩
  simp [Http.NoticeKind.toJson, Json.Value.depth, Json.depthOfMembers, Json.depthLimit]

/-- A refusal in a notice is settled. -/
theorem settled_error (status : Nat) (message : String) :
    Settled (Response.error status message) :=
  fun _ => ⟨rfl, tellsError_error status message⟩

/-- A failure is told in a notice. -/
theorem settled_ofFailure (failure : Failure) : Settled (Response.ofFailure failure) :=
  settled_error _ failure.message

/-- A response that says that all went well is settled. -/
theorem settled_of_lt {response : Response} (well : response.status < 400) : Settled response :=
  fun wrong => absurd wrong (Nat.not_le.mpr well)

/-- A document that is served is settled. -/
theorem settled_json {status : Nat} (well : status < 400) (value : Json.Value) :
    Settled (Response.json status value) :=
  settled_of_lt well

/-- The response to a path without a resource is settled. -/
theorem settled_noRoute (path : String) : Settled (noRoute path) :=
  settled_error 404 _

/-- The response to a method that a resource does not know is settled. -/
theorem settled_noMethod {m : Type → Type} (resource : Resource m) : Settled (noMethod resource) :=
  settled_error 405 "Method not allowed"

/-- What a lookup without a valid name is told. -/
theorem settled_of_lookupName {query : Option String} {refusal : Response}
    (refused : lookupName query = .error refusal) : Settled refusal := by
  unfold lookupName at refused
  split at refused
  · cases refused
    exact settled_error 400 _
  · split at refused
    · cases refused
      exact settled_error 400 _
    · obtain ⟨failure, -, rfl⟩ := error_of_mapError refused
      exact settled_ofFailure failure

/-- What a body that asks to store nothing valid is told. -/
theorem settled_of_writtenEntry {body : Bytes} {refusal : Response}
    (refused : writtenEntry body = .error refusal) : Settled refusal := by
  unfold writtenEntry at refused
  split at refused
  · cases refused
    exact settled_error 400 _
  · split at refused
    · cases refused
      exact settled_error 400 _
    · obtain ⟨failure, -, rfl⟩ := error_of_mapError refused
      exact settled_ofFailure failure

/-- What a body without a record is told. -/
theorem settled_of_submittedRecord {body : Bytes} {refusal : Response}
    (refused : submittedRecord body = .error refusal) : Settled refusal := by
  unfold submittedRecord at refused
  split at refused
  · cases refused
    exact settled_error 400 _
  · split at refused <;> cases refused <;> exact settled_error 400 _

end Responses

section Handlers

variable {State : Type}

/-- A lookup is settled. -/
theorem settled_lookUp (request : Request) (cache : Cache) : Settled (lookUp request cache).1 := by
  rw [lookUp]
  split
  · next refusal refused => exact settled_of_lookupName refused
  · split
    · exact settled_json (by decide) _
    · exact settled_error 404 _

/-- A request to store an answer is settled. -/
theorem settled_storeEntry (body : Bytes) (cache : Cache) : Settled (storeEntry body cache).1 := by
  rw [storeEntry]
  split
  · next refusal refused => exact settled_of_writtenEntry refused
  · exact settled_json (by decide) _

/-- A record that is handed in is settled. -/
theorem settled_submitRecord (signer : Receipt.Signer State) (body : Bytes) (state : State) :
    Settled (submitRecord signer body state).1 := by
  rw [submitRecord]
  split
  · next refusal refused => exact settled_of_submittedRecord refused
  · split
    · exact settled_json (by decide) _
    · next failure stored _ => exact settled_ofFailure failure

/-- What is served of a report is settled. -/
theorem settled_serveReport (found : Except Failure (Option Receipt.Report)) :
    Settled (serveReport found) := by
  rcases found with failure | _ | report
  · exact settled_ofFailure failure
  · exact settled_error 404 _
  · exact settled_json (by decide) _

/-- What is served of a decision is settled. -/
theorem settled_serveDecision (decided : Except Failure Policy.Decision) :
    Settled (serveDecision decided) := by
  rcases decided with failure | decision
  · exact settled_ofFailure failure
  · exact settled_json (by decide) _

/-- What is served of an outcome is settled. -/
theorem settled_serveOutcome (outcome : Resolver.Outcome) : Settled (serveOutcome outcome) := by
  rcases outcome with failure | resolution
  · exact settled_ofFailure failure
  · exact settled_json (by decide) _

/-- A body that is not too large is handed on. -/
theorem takeBody_of_le {handle : Bytes → StateM State Response} {request : Request}
    (fits : request.body.length ≤ bodyLimit) : takeBody handle request = handle request.body :=
  if_neg (Nat.not_lt.mpr fits)

/-- A body that is too large is not handed on. -/
theorem takeBody_of_lt {handle : Bytes → StateM State Response} {request : Request}
    (large : bodyLimit < request.body.length) :
    takeBody handle request =
      return .text 413 "Failed to buffer the request body: length limit exceeded" :=
  if_pos large

end Handlers

section Sites

variable {State : Type} {request : Request}

/-- A site settles a request if the resource of its path does. -/
theorem settled_answer {site : Site (StateM State)} {state : State}
    (handled : ∀ resource, site request.target.path = some resource →
      ∀ handler, resource.handler? request.method = some handler →
        Settled (handler request state).1) :
    Settled (site.answer request state).1 := by
  cases found : site request.target.path with
  | none =>
    simp only [answer, found]
    exact settled_noRoute request.target.path
  | some resource =>
    cases knows : resource.handler? request.method with
    | none =>
      simp only [answer, found, knows]
      exact settled_noMethod resource
    | some handler =>
      simp only [answer, found, knows]
      exact handled resource found handler knows

/-- A resource whose only handler is for lookups settles what that handler settles. -/
theorem settled_get {get handler : Request → StateM State Response} {state : State}
    (settles : Settled (get request state).1)
    (handles : Resource.handler? { get := some get } request.method = some handler) :
    Settled (handler request state).1 := by
  cases method : request.method <;> rw [method] at handles <;> cases handles <;> exact settles

/-- The resource that tells that a service is up settles everything. -/
theorem settled_health {handler : Request → StateM State Response} (state : State)
    (handles : health.handler? request.method = some handler) :
    Settled (handler request state).1 :=
  settled_get (fun wrong => absurd wrong (by decide : ¬ 400 ≤ 200)) handles

/-- A site whose handlers work on a part of a state answers as it does on that part alone. -/
theorem answer_lift {World : Type} {embed : StateM State Response → StateM World Response}
    (part : World → State) (embeds : ∀ work world, (embed work world).1 = (work (part world)).1)
    (site : Site (StateM State)) (world : World) :
    ((site.lift embed).answer request world).1 = (site.answer request (part world)).1 := by
  simp only [answer, lift]
  rcases site request.target.path with _ | ⟨get, post⟩
  · rfl
  · cases request.method <;> cases get <;> cases post <;>
      first
      | rfl
      | exact embeds _ world

/-- The site of the policy settles every request. -/
theorem settled_policy (file : String) (files : FileSystem) :
    Settled ((policy file).answer request files).1 := by
  apply settled_answer
  intro resource found handler handles
  unfold policy at found
  split at found
  · cases found
    exact settled_health files handles
  · split at found <;> cases found
    exact settled_get (settled_serveDecision _) handles

/-- The site of a panel settles every request. -/
theorem settled_quorum (panel : Quorum.Panel) (defaultName : Name) (state : State) :
    Settled ((quorum (m := StateM State) panel defaultName).answer request state).1 := by
  apply settled_answer
  intro resource found handler handles
  unfold quorum at found
  split at found
  · cases found
    exact settled_health state handles
  · split at found <;> cases found
    exact settled_get (settled_json (by decide) _) handles

/-- The site of a resolver settles every request. -/
theorem settled_frontDoor (resolve : Name → StateM State Resolver.Outcome) (defaultName : Name)
    (state : State) : Settled ((frontDoor resolve defaultName).answer request state).1 := by
  apply settled_answer
  intro resource found handler handles
  unfold frontDoor at found
  split at found
  · cases found
    exact settled_health state handles
  · split at found <;> cases found
    exact settled_get (settled_serveOutcome _) handles

/-- The site of a cache settles every request, except for one to store a body that is too large. -/
theorem settled_cache (cache : Cache)
    (fits : request.method = .post → request.target.path = "/cache" →
      request.body.length ≤ bodyLimit) :
    Settled (Site.cache.answer request cache).1 := by
  apply settled_answer
  intro resource found handler handles
  unfold Site.cache at found
  split at found
  · cases found
    exact settled_health cache handles
  · split at found <;> cases found
    next path =>
    cases method : request.method <;> rw [method] at handles <;> cases handles
    case get => exact settled_lookUp request cache
    case head => exact settled_lookUp request cache
    case post =>
      rw [takeBody_of_le (fits method path)]
      exact settled_storeEntry request.body cache

/-- The site of a signer settles every request, except for a body that is too large and a segment
that is no text. -/
theorem settled_receipts (signer : Receipt.Signer State) (state : State)
    (fits : request.method = .post → request.target.path = "/receipt" →
      request.body.length ≤ bodyLimit)
    (whole : request.method ≠ .head)
    (readable : request.method = .get → ∀ segment,
      Http.segmentBehind? "/receipt/" request.target.path = some segment →
        Http.segmentText? segment ≠ none) :
    Settled ((receipts signer).answer request state).1 := by
  apply settled_answer
  intro resource found handler handles
  unfold receipts at found
  split at found
  · cases found
    exact settled_health state handles
  · split at found
    · next path =>
      cases found
      cases method : request.method <;> rw [method] at handles <;> cases handles
      rw [takeBody_of_le (fits method path)]
      exact settled_submitRecord signer request.body state
    · obtain ⟨segment, behind, rfl⟩ := Option.map_eq_some_iff.mp found
      cases method : request.method <;> rw [method] at handles <;> cases handles
      case isFalse.isFalse.get =>
        simp only [fetchReport]
        split
        · exact settled_serveReport _
        · next unreadable => exact absurd unreadable (readable method segment behind)
      case isFalse.isFalse.head => exact absurd method whole

end Sites

/-- The requests that are refused before a handler has its turn, and what they are told. -/
inductive Rejected : Service → Request → Response → Prop where
  /-- The body is larger than what a service takes. -/
  | body {service : Service} {request : Request} (posts : request.method = .post)
      (taken : (service = .cache ∧ request.target.path = "/cache") ∨
        (service = .receipt ∧ request.target.path = "/receipt"))
      (large : bodyLimit < request.body.length) :
      Rejected service request
        (.text 413 "Failed to buffer the request body: length limit exceeded")
  /-- The segment that should be the id of a receipt stands for no text. -/
  | segment {request : Request} {segment : String} (gets : request.method = .get)
      (behind : Http.segmentBehind? "/receipt/" request.target.path = some segment)
      (unreadable : Http.segmentText? segment = none) :
      Rejected .receipt request (.text 400 "Invalid URL: Invalid UTF-8 in \x60id\x60")

/-- The resource behind the beginning of the paths of receipts. -/
theorem receipts_of_behind {State : Type} (signer : Receipt.Signer State) {path segment : String}
    (behind : Http.segmentBehind? "/receipt/" path = some segment) :
    receipts signer path = some { get := some fun _ => fetchReport signer segment } := by
  have health : path ≠ "/health" := by
    rintro rfl
    have none : Http.segmentBehind? "/receipt/" "/health" = none := by decide
    cases none.symm.trans behind
  have bare : path ≠ "/receipt" := by
    rintro rfl
    have none : Http.segmentBehind? "/receipt/" "/receipt" = none := by decide
    cases none.symm.trans behind
  rw [receipts, if_neg health, if_neg bare, behind]
  rfl

/-- A text that is read as no document tells no error. -/
theorem not_tellsError_text {status : Nat} {content : String}
    (unread : (Json.Value.ofText (Text.utf8 content)).isOk = false) :
    ¬ TellsError (Response.text status content) := by
  rintro ⟨message, read⟩
  change Json.Value.ofText (Text.utf8 content) = _ at read
  rw [read] at unread
  cases unread

/-- A rejection is a refusal, and it does not tell its error as the others do. -/
theorem Rejected.untold {service : Service} {request : Request} {rejection : Response}
    (rejected : Rejected service request rejection) :
    400 ≤ rejection.status ∧ ¬ TellsError rejection := by
  cases rejected with
  | body posts taken large => exact ⟨by decide, not_tellsError_text (by decide +kernel)⟩
  | segment gets behind unreadable =>
    exact ⟨by decide, not_tellsError_text (by decide +kernel)⟩

end Site

namespace Components

variable {components : Components} {settings : Settings} {transport : Transport}
  {service : Service} {site : Site (StateM World)} {request : Request}

/-- The site of the receipt service is that of a signer. -/
theorem exists_receipts
    (listens : components.listener settings transport .receipt = .ok (.site site)) :
    ∃ signer, site = Site.receipts signer := by
  obtain ⟨same, signs, equal⟩ := ok_of_map listens
  cases equal
  obtain ⟨signer, -, rfl⟩ := ok_of_map signs
  exact ⟨signer, rfl⟩

/-- The site of the front door is that of a resolver. -/
theorem exists_frontDoor
    (listens : components.listener settings transport .doh = .ok (.site site)) :
    ∃ resolve, site = Site.frontDoor resolve components.defaultName := by
  obtain ⟨same, wired, equal⟩ := ok_of_map listens
  cases equal
  obtain ⟨resolve, -, rfl⟩ := ok_of_map wired
  exact ⟨resolve, rfl⟩

/-- A site answers a request that is rejected with the rejection. -/
theorem answer_of_rejected
    (listens : components.listener settings transport service = .ok (.site site))
    {rejection : Response} (rejected : Site.Rejected service request rejection) (world : World) :
    (site.answer request world).1 = rejection := by
  obtain ⟨method, ⟨path, query⟩, body⟩ := request
  cases rejected with
  | body posts taken large =>
    cases posts
    rcases taken with ⟨rfl, same⟩ | ⟨rfl, same⟩
    · cases same
      cases listens
      change (World.onCache (Site.takeBody Site.storeEntry _) world).1 = _
      rw [Site.takeBody_of_lt large]
      rfl
    · cases same
      obtain ⟨signer, rfl⟩ := exists_receipts listens
      change (Site.takeBody (Site.submitRecord signer) _ world).1 = _
      rw [Site.takeBody_of_lt large]
      rfl
  | segment gets behind unreadable =>
    cases gets
    obtain ⟨signer, rfl⟩ := exists_receipts listens
    simp only [Site.answer, Site.receipts_of_behind signer behind, Resource.handler?,
      Site.fetchReport, unreadable]

/-- A request that is rejected is refused, and is not told what went wrong. -/
theorem respond_of_rejected
    (listens : components.listener settings transport service = .ok (.site site))
    {rejection : Response} (rejected : Site.Rejected service request rejection) (world : World) :
    (site.respond request world).1 = rejection ∧ 400 ≤ rejection.status ∧
      ¬ Site.TellsError rejection := by
  refine ⟨?_, rejected.untold⟩
  have whole : request.method ≠ .head := by
    cases rejected with
    | body posts => simp [posts]
    | segment gets => simp [gets]
  rw [Remote.respond_eq, if_neg whole]
  exact answer_of_rejected listens rejected world

/-- A site refuses a request in a notice of what went wrong, unless the request is rejected before a
handler has its turn. Such a request is told something else, which is no notice. A request has its
whole body here: one whose body breaks off on the way is refused with 400 by whoever collects the
body, and that is outside of this. -/
theorem refusal_of_listener
    (listens : components.listener settings transport service = .ok (.site site))
    (whole : request.method ≠ .head) (world : World) :
    (∀ rejection, Site.Rejected service request rejection →
      (site.respond request world).1 = rejection ∧ 400 ≤ rejection.status ∧
        ¬ Site.TellsError rejection) ∧
    ((∀ rejection, ¬ Site.Rejected service request rejection) →
      400 ≤ (site.respond request world).1.status →
        (site.respond request world).1.contentType = some Http.jsonType ∧
          Site.TellsError (site.respond request world).1) := by
  refine ⟨fun rejection rejected => respond_of_rejected listens rejected world, fun handed => ?_⟩
  rw [Remote.respond_eq, if_neg whole]
  change Site.Settled (site.answer request world).1
  cases service with
  | policy =>
    cases listens
    rw [policySite, Site.answer_lift World.files fun work world => rfl]
    exact Site.settled_policy components.policyFile world.files
  | quorum =>
    cases listens
    exact Site.settled_quorum components.panel components.defaultName world
  | cache =>
    cases listens
    rw [cacheSite, Site.answer_lift World.cache fun work world => rfl]
    exact Site.settled_cache world.cache fun posts path => Nat.not_lt.mp fun large =>
      handed _ (.body posts (.inl ⟨rfl, path⟩) large)
  | receipt =>
    obtain ⟨signer, rfl⟩ := exists_receipts listens
    exact Site.settled_receipts signer world
      (fun posts path => Nat.not_lt.mp fun large => handed _ (.body posts (.inr ⟨rfl, path⟩) large))
      whole fun gets segment behind unreadable => handed _ (.segment gets behind unreadable)
  | doh =>
    obtain ⟨resolve, rfl⟩ := exists_frontDoor listens
    exact Site.settled_frontDoor resolve components.defaultName world
  | dot =>
    obtain ⟨reply, -, equal⟩ := ok_of_map listens
    cases equal

section Signing

/-- The components of a process that only signs receipts, with the default settings. -/
def signing : Components :=
  ⟨.ofSettings {}, some (signerOf {} []), "./config/policy.json", ⟨"example.com", rfl⟩⟩

/-- The site of the signer tells what is wrong with a request of a method that it does not know, and
not what is wrong with a lookup of a segment that is no text. -/
theorem refusal_of_listener_signing :
    Components.ofSettings {} [.receipt] [] = .ok signing ∧
      ∃ site, signing.listener {} unreachable .receipt = .ok (.site site) ∧
        (site.respond ⟨.get, ⟨"/receipt", none⟩, []⟩ vacant).1.status = 405 ∧
        Site.TellsError (site.respond ⟨.get, ⟨"/receipt", none⟩, []⟩ vacant).1 ∧
        ¬ Site.TellsError (site.respond ⟨.get, ⟨"/receipt/%FF", none⟩, []⟩ vacant).1 := by
  have listens : signing.listener {} unreachable .receipt =
      .ok (.site (Site.receipts (signerOf {} []))) := rfl
  refine ⟨rfl, _, listens, rfl, ?_, ?_⟩
  · have handed : ∀ rejection,
        ¬ Site.Rejected .receipt ⟨.get, ⟨"/receipt", none⟩, []⟩ rejection := by
      rintro rejection (⟨posts, -, -⟩ | ⟨-, behind, -⟩)
      · cases posts
      · cases behind
    exact ((refusal_of_listener listens (by decide) vacant).2 handed (by decide)).2
  · have rejected : Site.Rejected .receipt ⟨.get, ⟨"/receipt/%FF", none⟩, []⟩ _ :=
      .segment rfl rfl (by decide +kernel)
    obtain ⟨same, -, untold⟩ := (refusal_of_listener listens (by decide) vacant).1 _ rejected
    rw [same]
    exact untold

/-- Two refusals that tell no error: a lookup of the byte `FF` among the receipts, and a body of one
byte too many for the cache. -/
theorem untold_refusals :
    Components.ofSettings {} [.receipt] [] = .ok signing ∧
      (∃ site, signing.listener {} unreachable .receipt = .ok (.site site) ∧
        400 ≤ (site.respond ⟨.get, ⟨"/receipt/%FF", none⟩, []⟩ vacant).1.status ∧
        ¬ Site.TellsError (site.respond ⟨.get, ⟨"/receipt/%FF", none⟩, []⟩ vacant).1) ∧
      ∃ site body, signing.listener {} unreachable .cache = .ok (.site site) ∧
        body.length = 2097153 ∧
        400 ≤ (site.respond ⟨.post, ⟨"/cache", none⟩, body⟩ vacant).1.status ∧
        ¬ Site.TellsError (site.respond ⟨.post, ⟨"/cache", none⟩, body⟩ vacant).1 := by
  obtain ⟨bytes, size⟩ : ∃ bytes : Bytes, bytes.length = 2097153 :=
    ⟨List.replicate 2097153 0, List.length_replicate⟩
  have large : Site.bodyLimit < bytes.length := by
    rw [size]
    decide
  have receipt : signing.listener {} unreachable .receipt =
      .ok (.site (Site.receipts (signerOf {} []))) := rfl
  have cache : signing.listener {} unreachable .cache = .ok (.site cacheSite) := rfl
  have segment : Site.Rejected .receipt ⟨.get, ⟨"/receipt/%FF", none⟩, []⟩ _ :=
    .segment rfl rfl (by decide +kernel)
  have body : Site.Rejected .cache ⟨.post, ⟨"/cache", none⟩, bytes⟩ _ :=
    .body rfl (.inl ⟨rfl, rfl⟩) large
  obtain ⟨lookup, lookupRefused, lookupUntold⟩ := respond_of_rejected receipt segment vacant
  obtain ⟨store, storeRefused, storeUntold⟩ := respond_of_rejected cache body vacant
  refine ⟨rfl, ⟨_, receipt, ?_⟩, ⟨_, bytes, cache, size, ?_⟩⟩
  · rw [lookup]
    exact ⟨lookupRefused, lookupUntold⟩
  · rw [store]
    exact ⟨storeRefused, storeUntold⟩

end Signing

end Components

end GatedResolver
