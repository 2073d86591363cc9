import GatedResolver.Deployment.Wiring
import GatedResolver.Proofs.Resolver.Delivered
import GatedResolver.Proofs.Success

/-!
# Responses that cannot be used

A client takes a value from a response only if the response is a success and its body decodes. All
else is a failure under the label of the client, whatever the status and whatever the body, except
that a cache may say with a status that it has no answer. To the resolver all these failures are
one: a service whose responses cannot be used is no worse than one that cannot be reached.
-/

namespace GatedResolver.Remote

/-- A call takes exactly the values that successes decode to. Every other response is a failure
under a label. -/
def TakesSuccesses {α : Type} (label : String) (decoder : Json.Decoder α)
    (call : Exchange → Except Failure α) : Prop :=
  ∀ status body,
    (∀ value, call (.answered status (.whole body)) = .ok value ↔
      Http.isSuccess status = true ∧ decoder.decode body = .ok value) ∧
    ∀ failure, call (.answered status (.whole body)) = .error failure →
      ∃ reason, failure = .unavailable label reason

/-- A call takes the values that successes decode to, and takes the status 404 for none. Every other
response is a failure under a label. -/
def TakesFindings {α : Type} (label : String) (decoder : Json.Decoder α)
    (call : Exchange → Except Failure (Option α)) : Prop :=
  ∀ status body,
    (call (.answered status (.whole body)) = .ok none ↔ status = 404) ∧
    (∀ value, call (.answered status (.whole body)) = .ok (some value) ↔
      Http.isSuccess status = true ∧ decoder.decode body = .ok value) ∧
    ∀ failure, call (.answered status (.whole body)) = .error failure →
      ∃ reason, failure = .unavailable label reason

/-- A call goes by the status alone. Every response that is no success is a failure under a
label. -/
def TakesStatus (label : String) (call : Exchange → Except Failure Unit) : Prop :=
  ∀ status body,
    (call (.answered status (.whole body)) = .ok () ↔ Http.isSuccess status = true) ∧
    ∀ failure, call (.answered status (.whole body)) = .error failure →
      ∃ reason, failure = .unavailable label reason

namespace Client

variable {α : Type} (client : Client) (decoder : Json.Decoder α) (message : Message)
  (status : Nat) (body : Bytes)

/-- What a client makes of a whole response that has to be a success. -/
theorem value_answered :
    client.value decoder message (.answered status (.whole body)) =
      if Http.isSuccess status then client.decoded decoder (.whole body)
      else .error (client.wrongStatus status) :=
  rfl

/-- What a client makes of a whole response that may say that there is no value. -/
theorem valueIfFound_answered :
    client.valueIfFound decoder message (.answered status (.whole body)) =
      if status = 404 then .ok none
      else if Http.isSuccess status then some <$> client.decoded decoder (.whole body)
      else .error (client.wrongStatus status) :=
  rfl

/-- What a client makes of a response by its status alone. -/
theorem accepted_answered :
    client.accepted message (.answered status (.whole body)) =
      if Http.isSuccess status then .ok () else .error (client.wrongStatus status) :=
  rfl

/-- A body is decoded as the decoder decodes it. -/
theorem decoded_eq_ok_iff (value : α) :
    client.decoded decoder (.whole body) = .ok value ↔ decoder.decode body = .ok value :=
  mapError_eq_ok_iff

variable {client decoder message status body}

/-- A body that is not decoded is a failure of the service. -/
theorem failure_of_decoded {failure : Failure}
    (failed : client.decoded decoder (.whole body) = .error failure) :
    ∃ reason, failure = client.failure reason := by
  obtain ⟨fault, -, same⟩ := error_of_mapError failed
  exact ⟨_, same.symm⟩

/-- A value is taken exactly from a success whose body decodes to it. -/
theorem value_eq_ok_iff {value : α} :
    client.value decoder message (.answered status (.whole body)) = .ok value ↔
      Http.isSuccess status = true ∧ decoder.decode body = .ok value := by
  rw [value_answered, ← decoded_eq_ok_iff client]
  split
  · next success => simp [success]
  · next failure => simp [failure]

/-- A response that gives no value is a failure of the service. -/
theorem failure_of_value {failure : Failure}
    (failed : client.value decoder message (.answered status (.whole body)) = .error failure) :
    ∃ reason, failure = client.failure reason := by
  rw [value_answered] at failed
  split at failed
  · exact failure_of_decoded failed
  · cases failed
    exact ⟨_, rfl⟩

/-- A cache has no answer exactly if it says so with its status. -/
theorem valueIfFound_eq_none_iff :
    client.valueIfFound decoder message (.answered status (.whole body)) = .ok none ↔
      status = 404 := by
  rw [valueIfFound_answered]
  split
  · next missing => simp [missing]
  · next present =>
    refine iff_of_false (fun found => ?_) present
    split at found
    · obtain ⟨value, -, same⟩ := ok_of_map found
      cases same
    · cases found

/-- A cache has an answer exactly if its response is a success whose body decodes to it. -/
theorem valueIfFound_eq_some_iff {value : α} :
    client.valueIfFound decoder message (.answered status (.whole body)) = .ok (some value) ↔
      Http.isSuccess status = true ∧ decoder.decode body = .ok value := by
  rw [valueIfFound_answered, ← decoded_eq_ok_iff client]
  split
  · next missing => simp [missing, Http.isSuccess]
  · split
    · next success =>
      cases client.decoded decoder (.whole body) <;> simp [success, Functor.map, Except.map]
    · next failure => simp [failure]

/-- A response of a cache that is neither is a failure of the cache. -/
theorem failure_of_valueIfFound {failure : Failure}
    (failed : client.valueIfFound decoder message (.answered status (.whole body)) =
      .error failure) : ∃ reason, failure = client.failure reason := by
  rw [valueIfFound_answered] at failed
  split at failed
  · cases failed
  · split at failed
    · cases decoded : client.decoded decoder (.whole body) with
      | ok value =>
        rw [decoded] at failed
        cases failed
      | error cause =>
        rw [decoded] at failed
        cases failed
        exact failure_of_decoded decoded
    · cases failed
      exact ⟨_, rfl⟩

/-- A response is accepted exactly if it is a success. -/
theorem accepted_eq_ok_iff :
    client.accepted message (.answered status (.whole body)) = .ok () ↔
      Http.isSuccess status = true := by
  rw [accepted_answered]
  split <;> simp_all

/-- A response that is not accepted is a failure of the service. -/
theorem failure_of_accepted {failure : Failure}
    (failed : client.accepted message (.answered status (.whole body)) = .error failure) :
    ∃ reason, failure = client.failure reason := by
  rw [accepted_answered] at failed
  split at failed <;> cases failed
  exact ⟨_, rfl⟩

variable (client decoder message)

/-- A client that wants a success takes exactly the values of successes. -/
theorem takesSuccesses_value :
    TakesSuccesses client.label decoder (client.value decoder message) :=
  fun _ _ => ⟨fun _ => value_eq_ok_iff, fun _ => failure_of_value⟩

/-- A client that allows for no value takes the values of successes, and 404 for none. -/
theorem takesFindings_valueIfFound :
    TakesFindings client.label decoder (client.valueIfFound decoder message) :=
  fun _ _ => ⟨valueIfFound_eq_none_iff, fun _ => valueIfFound_eq_some_iff,
    fun _ => failure_of_valueIfFound⟩

/-- A client that wants no value goes by the status. -/
theorem takesStatus_accepted : TakesStatus client.label (client.accepted message) :=
  fun _ _ => ⟨accepted_eq_ok_iff, fun _ => failure_of_accepted⟩

end Client

/-- A whole response that a client cannot take a value from. -/
structure Unusable {α : Type} (decoder : Json.Decoder α) where
  status : Nat
  body : Bytes
  useless : ¬ (Http.isSuccess status = true ∧ ∃ value, decoder.decode body = .ok value)

namespace Unusable

variable {α : Type} {decoder : Json.Decoder α}

/-- The exchange that brings an unusable response. -/
def exchange (response : Unusable decoder) : Exchange :=
  .answered response.status (.whole response.body)

variable (client : Client) (message : Message) (response : Unusable decoder)

/-- An unusable response gives no value. -/
theorem value_eq_error : ∃ failure,
    client.value decoder message response.exchange = .error failure := by
  cases taken : client.value decoder message response.exchange with
  | error failure => exact ⟨failure, rfl⟩
  | ok value =>
    obtain ⟨success, decoded⟩ := Client.value_eq_ok_iff.mp taken
    exact absurd ⟨success, value, decoded⟩ response.useless

/-- An unusable response gives no answer, even if the cache may say that it has none. -/
theorem valueIfFound_ne_some (value : α) :
    client.valueIfFound decoder message response.exchange ≠ .ok (some value) := by
  intro found
  obtain ⟨success, decoded⟩ := Client.valueIfFound_eq_some_iff.mp found
  exact response.useless ⟨success, value, decoded⟩

end Unusable

end GatedResolver.Remote

namespace GatedResolver.Resolver.Collaborators

open Remote (Client Message Exchange)
open Components (ending)

variable {m : Type → Type} [Monad m] (others : Collaborators m) (client : Client)
  (send : Message → m Exchange)

/-- Collaborators with a policy service in the place of theirs. -/
def withPolicyService : Collaborators m :=
  { others with policy := ending <$> Remote.askPolicy send client }

/-- Collaborators with a cache service in the place of theirs. -/
def withCacheService : Collaborators m :=
  { others with
    lookup := fun name => ending <$> Remote.askCache send client name
    fill := fun name answer => ending <$> Remote.fillCache send client name answer }

/-- Collaborators with a quorum service in the place of theirs. -/
def withQuorumService : Collaborators m :=
  { others with query := fun name => ending <$> Remote.askQuorum send client name }

/-- Collaborators with a receipt service in the place of theirs. -/
def withReceiptService : Collaborators m :=
  { others with
    submit := fun resolution =>
      (fun result => ending (result.map .stored)) <$> Remote.submitReceipt send client resolution }

end GatedResolver.Resolver.Collaborators

namespace GatedResolver

/-- The services that a resolver is wired to are in these places. -/
theorem Components.eq_withServices {components : Components} {settings : ResolverSettings}
    {transport : Components.Transport} {wired : Resolver.Collaborators (StateM World)}
    (wiring : components.collaborators settings transport = .ok wired) :
    (∀ url, settings.policyUrl = some url → wired =
      wired.withPolicyService (Remote.policyClient url settings.timeoutMs.toNat) transport) ∧
    (∀ url, settings.cacheUrl = some url → wired =
      wired.withCacheService (Remote.cacheClient url settings.timeoutMs.toNat) transport) ∧
    (∀ url, settings.quorumUrl = some url → wired =
      wired.withQuorumService (Remote.quorumClient url settings.timeoutMs.toNat) transport) ∧
    (∀ url, settings.receiptUrl = some url → wired =
      wired.withReceiptService (Remote.receiptClient url settings.timeoutMs.toNat) transport) := by
  obtain ⟨submit, submitted, rfl⟩ := ok_of_map wiring
  refine ⟨fun url named => ?_, fun url named => ?_, fun url named => ?_, fun url named => ?_⟩
  · simp only [policyCall, named]
    rfl
  · simp only [lookupCall, fillCall, named]
    rfl
  · simp only [queryCall, named]
    rfl
  · rw [submitCall, named] at submitted
    cases submitted
    rfl

end GatedResolver

namespace GatedResolver.Remote

open Resolver (Collaborators settle settle_congr)

section Services

variable {m : Type → Type} [Monad m] {α : Type} {decoder : Json.Decoder α}

/-- A service whose responses cannot be used. -/
def unusableService (respond : Message → m (Unusable decoder)) : Message → m Exchange :=
  fun message => Unusable.exchange <$> respond message

/-- A service that refuses connections, where the other one would have responded. -/
def unreachableService (respond : Message → m (Unusable decoder)) : Message → m Exchange :=
  fun message => (fun _ => .failed) <$> respond message

variable [LawfulMonad m] (others : Collaborators m) (client : Client)

/-- A policy service whose responses cannot be used delivers what an unreachable one does. -/
theorem deliverAlike_policy (respond : Message → m (Unusable Policy.Decision.decoder)) :
    (others.withPolicyService client (unusableService respond)).DeliverAlike
      (others.withPolicyService client (unreachableService respond)) := by
  refine ⟨?_, fun _ => rfl, fun _ => rfl, fun _ _ => rfl, fun _ => rfl⟩
  simp only [Collaborators.withPolicyService, askPolicy, unusableService, unreachableService,
    bind_pure_comp, Functor.map_map]
  congr 1
  funext response
  obtain ⟨failure, useless⟩ := response.value_eq_error client (Message.asking client.url)
  rw [useless]
  rfl

/-- A cache service whose responses cannot be used delivers what an unreachable one does. -/
theorem deliverAlike_cache (respond : Message → m (Unusable Answer.decoder)) :
    (others.withCacheService client (unusableService respond)).DeliverAlike
      (others.withCacheService client (unreachableService respond)) := by
  refine ⟨rfl, fun name => ?_, fun _ => rfl, fun name answer => ?_, fun _ => rfl⟩
  · simp only [Collaborators.withCacheService, askCache, unusableService, unreachableService,
      bind_pure_comp, Functor.map_map]
    congr 1
    funext response
    have noAnswer := response.valueIfFound_ne_some client
      (Message.asking (withName client.url name.text))
    cases taken : client.valueIfFound Answer.decoder _ response.exchange with
    | error failure => rfl
    | ok found =>
      cases found with
      | none => rfl
      | some answer => exact absurd taken (noAnswer answer)
  · simp only [Collaborators.withCacheService, fillCache, unusableService, unreachableService,
      bind_pure_comp, Functor.map_map]

/-- A quorum service whose responses cannot be used delivers what an unreachable one does. -/
theorem deliverAlike_quorum (respond : Message → m (Unusable Quorum.Reply.decoder)) :
    (others.withQuorumService client (unusableService respond)).DeliverAlike
      (others.withQuorumService client (unreachableService respond)) := by
  refine ⟨rfl, fun _ => rfl, fun name => ?_, fun _ _ => rfl, fun _ => rfl⟩
  simp only [Collaborators.withQuorumService, askQuorum, unusableService, unreachableService,
    bind_pure_comp, Functor.map_map]
  congr 1
  funext response
  obtain ⟨failure, useless⟩ :=
    response.value_eq_error client (Message.asking (withName client.url name.text))
  rw [useless]
  rfl

/-- A receipt service whose responses cannot be used delivers what an unreachable one does. -/
theorem deliverAlike_receipt (respond : Message → m (Unusable Receipt.Ticket.decoder)) :
    (others.withReceiptService client (unusableService respond)).DeliverAlike
      (others.withReceiptService client (unreachableService respond)) := by
  refine ⟨rfl, fun _ => rfl, fun _ => rfl, fun _ _ => rfl, fun resolution => ?_⟩
  simp only [Collaborators.withReceiptService, submitReceipt, unusableService,
    unreachableService, bind_pure_comp, Functor.map_map]

end Services

/-- Each client takes exactly the responses that it can use, and reports all others under its own
label. So a request has the same outcome whether one of its services, be it the policy, the cache,
the quorum or the receipts, responds with what cannot be used or refuses connections: for all
collaborators in the other places, in any monad. -/
theorem unusable_as_unreachable {m : Type → Type} [Monad m] [LawfulMonad m] (url : String)
    (limitMs : Nat) :
    ((∀ name, TakesFindings "cache" Answer.decoder fun exchange =>
        askCache (m := Id) (fun _ => exchange) (cacheClient url limitMs) name) ∧
      (∀ name answer, TakesStatus "cache" fun exchange =>
        fillCache (m := Id) (fun _ => exchange) (cacheClient url limitMs) name answer) ∧
      (TakesSuccesses "policy gate" Policy.Decision.decoder fun exchange =>
        askPolicy (m := Id) (fun _ => exchange) (policyClient url limitMs)) ∧
      (∀ name, TakesSuccesses "upstream quorum" Quorum.Reply.decoder fun exchange =>
        askQuorum (m := Id) (fun _ => exchange) (quorumClient url limitMs) name) ∧
      ∀ resolution, TakesSuccesses "receipt ledger" Receipt.Ticket.decoder fun exchange =>
        submitReceipt (m := Id) (fun _ => exchange) (receiptClient url limitMs) resolution) ∧
    ∀ (others : Collaborators m) (request : Resolver.Request),
      (∀ respond : Message → m (Unusable Policy.Decision.decoder),
        settle (others.withPolicyService (policyClient url limitMs) (unusableService respond))
            request =
          settle (others.withPolicyService (policyClient url limitMs) (unreachableService respond))
            request) ∧
      (∀ respond : Message → m (Unusable Answer.decoder),
        settle (others.withCacheService (cacheClient url limitMs) (unusableService respond))
            request =
          settle (others.withCacheService (cacheClient url limitMs) (unreachableService respond))
            request) ∧
      (∀ respond : Message → m (Unusable Quorum.Reply.decoder),
        settle (others.withQuorumService (quorumClient url limitMs) (unusableService respond))
            request =
          settle (others.withQuorumService (quorumClient url limitMs) (unreachableService respond))
            request) ∧
      ∀ respond : Message → m (Unusable Receipt.Ticket.decoder),
        settle (others.withReceiptService (receiptClient url limitMs) (unusableService respond))
            request =
          settle (others.withReceiptService (receiptClient url limitMs) (unreachableService respond))
            request := by
  refine ⟨⟨?lookup, ?fill, ?policy, ?query, ?submit⟩, fun others request =>
    ⟨fun respond => ?_, fun respond => ?_, fun respond => ?_, fun respond => ?_⟩⟩
  case lookup => exact fun name => Client.takesFindings_valueIfFound _ _ _
  case fill => exact fun name answer => Client.takesStatus_accepted _ _
  case policy => exact Client.takesSuccesses_value _ _ _
  case query => exact fun name => Client.takesSuccesses_value _ _ _
  case submit => exact fun resolution => Client.takesSuccesses_value _ _ _
  · exact settle_congr (deliverAlike_policy others _ respond) request
  · exact settle_congr (deliverAlike_cache others _ respond) request
  · exact settle_congr (deliverAlike_quorum others _ respond) request
  · exact settle_congr (deliverAlike_receipt others _ respond) request

/-- Collaborators that need no policy and no cache. -/
def answering : Collaborators Id where
  policy := .failed (.policySource "gone")
  lookup _ := .replied none
  query name := .replied ⟨name, "A", 60, "203.0.113.10", ["one"], ⟨1, 1⟩⟩
  fill _ _ := .replied ()
  submit _ := .replied .aborted

/-- A service that answers every request with one status, which is no success, and without a
body. -/
def bodiless {α : Type} (decoder : Json.Decoder α) (status : Nat)
    (failure : Http.isSuccess status = false) : Message → Id (Unusable decoder) :=
  fun _ => ⟨status, [], fun useful => absurd useful.1 (by simp [failure])⟩

/-- A cache that is out of order does not keep a request from its answer, and a quorum that is out
of order does. -/
theorem unusable_as_unreachable_outOfOrder :
    let request : Resolver.Request := ⟨⟨"example.com", by decide⟩, 2000⟩
    let cache := bodiless Answer.decoder 503 rfl
    let quorum := bodiless Quorum.Reply.decoder 404 rfl
    settle (answering.withCacheService (cacheClient "http://c" 2000) (unusableService cache))
        request =
      settle (answering.withCacheService (cacheClient "http://c" 2000) (unreachableService cache))
        request ∧
    settle (answering.withCacheService (cacheClient "http://c" 2000) (unusableService cache))
        request = .ok ⟨request.name, .unknown, ⟨"A", 60, "203.0.113.10"⟩, some .quorum⟩ ∧
    settle (answering.withQuorumService (quorumClient "http://q" 2000) (unusableService quorum))
        request =
      settle (answering.withQuorumService (quorumClient "http://q" 2000)
        (unreachableService quorum)) request ∧
    settle (answering.withQuorumService (quorumClient "http://q" 2000) (unusableService quorum))
        request = .error (.unanswered "example.com") := by
  intro request cache quorum
  exact ⟨((unusable_as_unreachable "http://c" 2000).2 answering request).2.1 cache, rfl,
    ((unusable_as_unreachable "http://q" 2000).2 answering request).2.2.1 quorum, rfl⟩

end GatedResolver.Remote
