import GatedResolver.CommandLine.Startup
import GatedResolver.Proofs.Deployment.Built
import GatedResolver.Proofs.Deployment.Calls
import GatedResolver.Proofs.Site.Register
import GatedResolver.Proofs.Stream.FrontDoors

/-!
# Settings that were checked can be wired

Two conditions have to agree on what a name is: the one for checking settings and the one for
building components. They do, and components have what their services need, so each service has the
listener that it is to have. A process that has its settings can only fail to start because of the
address to listen on.
-/

namespace GatedResolver

namespace Http

/-- A request for a name, with nothing else in its query. -/
def Request.naming (request : Request) (name : Name) : Request :=
  { request with
    target := { request.target with query := some (Form.encode [("name", name.text)]) } }

/-- A request without a valid name is taken as one for the default. -/
theorem nameOr_naming {request : Request} (nameless : parsedName? request.target.query = none)
    (fallback : Name) :
    nameOr (request.naming fallback).target.query fallback =
      nameOr request.target.query fallback :=
  calc
    nameOr (request.naming fallback).target.query fallback = fallback :=
      nameOr_encode fallback fallback
    _ = nameOr request.target.query fallback := by rw [nameOr, nameless, Option.getD_none]

end Http

namespace Site

variable {m : Type → Type} [Monad m]

/-- A site answers two requests alike that differ in nothing which its handlers look at. -/
theorem respond_congr {site : Site m} {left right : Http.Request}
    (path : left.target.path = right.target.path) (method : left.method = right.method)
    (alike : ∀ resource, site right.target.path = some resource → ∀ handler,
      resource.handler? right.method = some handler → handler left = handler right) :
    site.respond left = site.respond right := by
  have answered : site.answer left = site.answer right := by
    unfold answer
    rw [path, method]
    cases found : site right.target.path with
    | none => rfl
    | some resource =>
      cases handled : resource.handler? right.method with
      | none => simp only [handled]
      | some handler => simp only [handled, alike resource found handler handled]
  rw [respond, respond, answered, method]

omit [Monad m] in
/-- The handlers of a resource that only has one for reading. -/
theorem handler?_of_get {read handler : Http.Request → m Http.Response} {method : Http.Method}
    (handled : ({ get := some read } : Resource m).handler? method = some handler) :
    handler = read := by
  cases method with
  | get | head => exact (Option.some_inj.mp handled).symm
  | post | other => cases handled

variable {request : Http.Request} (nameless : Http.parsedName? request.target.query = none)
include nameless

/-- The site of a resolver answers a request without a valid name as one for the default name. -/
theorem frontDoor_respond_naming (resolve : Name → m Resolver.Outcome) (fallback : Name) :
    (frontDoor resolve fallback).respond (request.naming fallback) =
      (frontDoor resolve fallback).respond request := by
  refine respond_congr rfl rfl fun resource found handler handled => ?_
  unfold frontDoor at found
  split at found
  · cases found
    rw [handler?_of_get handled]
  split at found
  · cases found
    rw [handler?_of_get handled, resolveQueried, resolveQueried, Http.nameOr_naming nameless]
  · cases found

/-- The site of a panel answers a request without a valid name as one for the default name. -/
theorem quorum_respond_naming (panel : Quorum.Panel) (fallback : Name) :
    (quorum (m := m) panel fallback).respond (request.naming fallback) =
      (quorum (m := m) panel fallback).respond request := by
  refine respond_congr rfl rfl fun resource found handler handled => ?_
  unfold quorum at found
  split at found
  · cases found
    rw [handler?_of_get handled]
  split at found
  · cases found
    simp only [handler?_of_get handled, Http.nameOr_naming nameless]
  · cases found

end Site

/-- Settings that were checked have a default name that is a name. -/
theorem Settings.nameFault?_of_validate {settings : Settings}
    (valid : settings.validate = .ok ()) :
    nameFault? settings.resolver.defaultName = none := by
  unfold validate at valid
  split at valid
  · cases valid
  split at valid
  · cases valid
  next named => exact named

namespace Components

variable {settings : Settings} {services : List Service} {random : Bytes}
  {components : Components}

/-- The collaborators of a resolver which hands its resolutions in where the settings say: to the
signer of its process, or to a remote receipt service. -/
structure Submits (settings : Settings) (random : Bytes) (transport : Transport)
    (collaborators : Resolver.Collaborators (StateM World)) : Prop where
  near : settings.resolver.receiptUrl = none → ∀ resolution, collaborators.submit resolution = do
    let submitted ← (signerOf settings.receipt random).submit (Json.sortKeys resolution.toJson)
    return ending (submitted.map .stored)
  far : ∀ url, settings.resolver.receiptUrl = some url →
    ∀ resolution, collaborators.submit resolution = do
      let submitted ← Remote.submitReceipt transport
        (Remote.receiptClient url settings.resolver.timeoutMs.toNat) resolution
      return ending (submitted.map .stored)

/-- The listeners of the services: the sites of the components, the site of the signer, and the two
front doors of the resolver. -/
inductive Serves (components : Components) (settings : Settings) (random : Bytes)
    (transport : Transport) : Service → Listener → Prop where
  | policy : Serves components settings random transport .policy (.site components.policySite)
  | quorum : Serves components settings random transport .quorum (.site components.quorumSite)
  | cache : Serves components settings random transport .cache (.site cacheSite)
  | receipt : Serves components settings random transport .receipt
      (.site (Site.receipts (signerOf settings.receipt random)))
  | doh {collaborators : Resolver.Collaborators (StateM World)}
      (wired : components.collaborators settings.resolver transport = .ok collaborators)
      (submits : Submits settings random transport collaborators) :
      Serves components settings random transport .doh (.site (Site.frontDoor
        (fun name => Resolver.run collaborators World.warn
          ⟨name, settings.resolver.timeoutMs.toNat⟩) components.defaultName))
  | dot {collaborators : Resolver.Collaborators (StateM World)}
      (wired : components.collaborators settings.resolver transport = .ok collaborators)
      (submits : Submits settings random transport collaborators) :
      Serves components settings random transport .dot (.stream (Stream.reply
        (some fun name => Resolver.run collaborators World.warn
          ⟨name, settings.resolver.timeoutMs.toNat⟩) World.now))

section Built

variable (built : ofSettings settings services random = .ok components)
include built

/-- Resolutions are handed in by components that were built for a front door where the settings
say. -/
theorem submits_of_built (served : .doh ∈ services ∨ .dot ∈ services) {transport : Transport}
    {collaborators : Resolver.Collaborators (StateM World)}
    (wired : components.collaborators settings.resolver transport = .ok collaborators) :
    Submits settings random transport collaborators := by
  obtain ⟨submit, submits, rfl⟩ := submitCall_of_wired wired
  constructor
  · intro near resolution
    have signing := signer_of_needSigner built (needSigner_eq_true_iff.mpr (.inr ⟨near, served⟩))
    simp only [submitCall, near, requireSigner, signing] at submits
    cases submits
    rfl
  · intro url far resolution
    simp only [submitCall, far] at submits
    cases submits
    rfl

/-- Every service that the components were built for can have its listener. -/
theorem exists_listener {service : Service} (belongs : service ∈ services)
    (transport : Transport) :
    ∃ listener, components.listener settings transport service = .ok listener ∧
      Serves components settings random transport service listener := by
  cases service with
  | policy => exact ⟨_, rfl, .policy⟩
  | quorum => exact ⟨_, rfl, .quorum⟩
  | cache => exact ⟨_, rfl, .cache⟩
  | receipt =>
    have signing := signer_of_needSigner built (needSigner_eq_true_iff.mpr (.inl belongs))
    refine ⟨_, ?_, .receipt⟩
    simp only [listener, receiptSite, requireSigner, signing]
    rfl
  | doh =>
    obtain ⟨collaborators, wired⟩ := exists_collaborators built (.inl belongs) transport
    refine ⟨_, ?_, .doh wired (submits_of_built built (.inl belongs) wired)⟩
    simp only [listener, frontDoor, resolver, wired]
    rfl
  | dot =>
    obtain ⟨collaborators, wired⟩ := exists_collaborators built (.inr belongs) transport
    refine ⟨_, ?_, .dot wired (submits_of_built built (.inr belongs) wired)⟩
    simp only [listener, streamDoor, resolver, wired]
    rfl

end Built

/-- The sites that fall back to the default name answer a request without a valid name as one for
the default name. -/
theorem respond_naming_of_listener {transport : Transport} {service : Service}
    {site : Site (StateM World)} (named : service = .quorum ∨ service = .doh)
    (wired : components.listener settings transport service = .ok (.site site))
    {request : Http.Request} (nameless : Http.parsedName? request.target.query = none) :
    site.respond (request.naming components.defaultName) = site.respond request := by
  rcases named with rfl | rfl
  · cases wired
    exact Site.quorum_respond_naming nameless _ _
  · obtain ⟨door, opened, same⟩ := ok_of_map wired
    cases same
    obtain ⟨resolve, -, same⟩ := ok_of_map opened
    cases same
    exact Site.frontDoor_respond_naming nameless _ _

/-- Settings that were checked can be wired for all lists of services, whatever else they say: the
components can be built, and for each service of the list the listener that it is to have. So the
receipt service gets the signer that it requires, and each front door a resolver that hands its
resolutions in to that signer, or to the remote receipt service if there is one. A signer is built
exactly if the receipt service is in the list, or one of the front doors is and there is no remote
receipt service. The name that the sites of the quorum and of the resolver fall back to is the one
of the settings, and it is a name. -/
theorem listener_of_validate (settings : Settings) (valid : settings.validate = .ok ())
    (services : List Service) (random : Bytes) (transport : Transport) :
    ∃ components, ofSettings settings services random = .ok components ∧
      (∀ service ∈ services, ∃ listener,
        components.listener settings transport service = .ok listener ∧
          Serves components settings random transport service listener) ∧
      (components.signer.isSome = true ↔
        .receipt ∈ services ∨
          settings.resolver.receiptUrl = none ∧ (.doh ∈ services ∨ .dot ∈ services)) ∧
      nameFault? settings.resolver.defaultName = none ∧
      components.defaultName.text = settings.resolver.defaultName ∧
      ∀ service site, service = .quorum ∨ service = .doh →
        components.listener settings transport service = .ok (.site site) →
        ∀ request : Http.Request, Http.parsedName? request.target.query = none →
          site.respond request = site.respond (request.naming components.defaultName) := by
  have named := Settings.nameFault?_of_validate valid
  obtain ⟨components, built⟩ := exists_ofSettings named services random
  have parsed := (spec_of_ofSettings built).2
  refine ⟨components, built, fun service belongs => exists_listener built belongs transport,
    (signer_isSome_iff built).trans needSigner_eq_true_iff, named,
    (Name.parse_eq_ok_iff.mp parsed).symm, fun service site named wired request nameless =>
      (respond_naming_of_listener named wired nameless).symm⟩

/-- A secret of no characters, receipts in memory, no policy file, and a remote receipt service, for
services in any order and more than once. -/
theorem listener_of_validate_remoteReceipts :
    let settings : Settings :=
      { resolver := { receiptUrl := some "http://r" }, receipt := ⟨some "", ""⟩, policy := ⟨""⟩ }
    let services : List Service := [.dot, .quorum, .doh, .dot]
    settings.validate = .ok () ∧
    ∃ components, ofSettings settings services [] = .ok components ∧
      (∀ service ∈ services, ∃ listener,
        components.listener settings unreachable service = .ok listener ∧
          Serves components settings [] unreachable service listener) ∧
      components.signer.isSome = false ∧ components.defaultName.text = "example.com" := by
  intro settings services
  have valid : settings.validate = .ok () := by decide
  obtain ⟨components, built, wired, signing, -, name, -⟩ :=
    listener_of_validate settings valid services [] unreachable
  refine ⟨valid, components, built, wired, ?_, name⟩
  rw [Bool.eq_false_iff, ne_eq, signing]
  decide

end Components

namespace CommandLine

/-- What is done for the members of a list in turn fails only if it fails for one of them. -/
theorem error_of_mapM {ε α β : Type} {step : α → Except ε β} {members : List α} {fault : ε}
    (fails : members.mapM step = .error fault) :
    ∃ member ∈ members, step member = .error fault := by
  induction members with
  | nil => cases fails
  | cons member rest inductionHypothesis =>
    rw [List.mapM_cons] at fails
    rcases error_of_bind fails with fails | ⟨result, -, fails⟩
    · exact ⟨member, List.mem_cons_self, fails⟩
    rcases error_of_bind fails with fails | ⟨results, -, fails⟩
    · obtain ⟨other, belongs, fails⟩ := inductionHypothesis fails
      exact ⟨other, List.mem_cons_of_mem member belongs, fails⟩
    · cases fails

/-- Settings that a process starts with were checked. -/
theorem validate_of_settingsOf {invocation : Invocation} {files : FileSystem}
    {environment : Environment} {settings : Settings}
    (had : settingsOf invocation files environment = .ok settings) :
    settings.validate = .ok () := by
  have loaded := mapError_eq_ok_iff.mp had
  obtain ⟨checked, loaded, rest⟩ := ok_of_bind loaded
  obtain ⟨-, -, same⟩ := ok_of_bind rest
  cases same
  obtain ⟨unchecked, -, rest⟩ := ok_of_bind loaded
  obtain ⟨⟨⟩, valid, same⟩ := ok_of_bind rest
  cases same
  exact valid

/-- A process that cannot start has no settings, or cannot listen on its address. It never lacks a
component, and none of its services lacks a signer. -/
theorem start_fault {invocation : Invocation} {files : FileSystem} {environment : Environment}
    {transport : Components → Components.Transport} {random : Bytes} {fault : StartFault}
    (failed : start invocation files environment transport random = .error fault) :
    (∃ cause, fault = .settings cause) ∨ fault = .address := by
  rcases error_of_bind failed with failed | ⟨settings, had, failed⟩
  · obtain ⟨cause, -, rfl⟩ := error_of_mapError failed
    exact .inl ⟨cause, rfl⟩
  have named := Settings.nameFault?_of_validate (validate_of_settingsOf had)
  rcases error_of_bind failed with failed | ⟨components, built, failed⟩
  · obtain ⟨cause, unbuilt, -⟩ := error_of_mapError failed
    obtain ⟨components, built⟩ :=
      Components.exists_ofSettings named invocation.command.services random
    cases built.symm.trans unbuilt
  rcases error_of_bind failed with failed | ⟨listeners, -, failed⟩
  · obtain ⟨service, belongs, failed⟩ := error_of_mapM failed
    obtain ⟨cause, unwired, -⟩ := error_of_mapError failed
    obtain ⟨listener, wired, -⟩ := Components.exists_listener (mapError_eq_ok_iff.mp built) belongs
      (transport components)
    cases wired.symm.trans unwired
  · split at failed
    · cases failed
    · cases failed
      exact .inr rfl

end CommandLine

end GatedResolver
