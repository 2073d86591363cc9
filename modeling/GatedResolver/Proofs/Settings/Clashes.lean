import GatedResolver.Settings.Validation
import Mathlib.Data.List.Nodup

/-!
# Services that listen on one number

Services are looked at in one fixed order, whatever the order of the labels is. The one that is
complained about is the first of those on the list that listens on the number of an earlier one
(`conflict?_eq_some_iff`). There is nothing to complain about exactly if the services on the list
listen on different numbers (`conflict?_eq_none_iff`).
-/

namespace GatedResolver

/-- The place of a service in the order in which services are looked at. -/
def Service.place (service : Service) : Nat :=
  Service.all.idxOf service

/-- Every service is looked at. -/
theorem Service.mem_all (service : Service) : service ∈ Service.all := by
  cases service <;> decide

/-- No two services have one place. -/
theorem Service.place_injective : Function.Injective Service.place := fun left _ same =>
  (List.idxOf_inj left.mem_all).mp same

/-- Services are looked at in the order of their places. -/
theorem Service.pairwise_place :
    Service.all.Pairwise fun earlier later => earlier.place < later.place := by
  decide

example : Service.all.map Service.label =
    ["policy", "upstream", "cache", "receipt", "doh", "dot"] := rfl

namespace Settings

variable {server : ServerSettings} {labels : List String} {other service : Service}

/-- Two services on a list of labels, the first one earlier in the order, listen on one number. -/
structure Clash (server : ServerSettings) (labels : List String) (other service : Service) :
    Prop where
  earlier : other.place < service.place
  otherListed : other.label ∈ labels
  listed : service.label ∈ labels
  shared : server.listener other = server.listener service

/-- Services that clash are two. -/
theorem Clash.ne (clash : Clash server labels other service) : other ≠ service := by
  rintro rfl
  exact Nat.lt_irrefl _ clash.earlier

/-- The first service that clashes with an earlier one, and the only one that it clashes with. -/
structure FirstClash (server : ServerSettings) (labels : List String) (other service : Service) :
    Prop extends Clash server labels other service where
  first : ∀ before after, Clash server labels before after → service.place ≤ after.place
  only : ∀ before, Clash server labels before service → before = other

/-- There is one first clash at most. -/
theorem FirstClash.unique {before after : Service} (left : FirstClash server labels other service)
    (right : FirstClash server labels before after) : other = before ∧ service = after := by
  have same : service = after := Service.place_injective (Nat.le_antisymm
    (left.first _ _ right.toClash) (right.first _ _ left.toClash))
  subst same
  exact ⟨right.only _ left.toClash, rfl⟩

/-- The services on a list of labels, in the order in which they are looked at. -/
def listedServices (labels : List String) : List Service :=
  Service.all.filter fun service => labels.contains service.label

/-- The services on a list are those whose labels are on it. -/
theorem mem_listedServices : service ∈ listedServices labels ↔ service.label ∈ labels := by
  simp [listedServices, Service.mem_all]

/-- The services on a list are looked at in the order of their places. -/
theorem pairwise_listedServices (labels : List String) :
    (listedServices labels).Pairwise fun earlier later => earlier.place < later.place :=
  Service.pairwise_place.filter _

/-- The services on a list with an earlier place than one of them are those in front of it. -/
theorem mem_front_of_place_lt {front back : List Service}
    (cut : listedServices labels = front ++ service :: back) (listed : other.label ∈ labels)
    (less : other.place < service.place) : other ∈ front := by
  have order := pairwise_listedServices labels
  rw [cut, List.pairwise_append] at order
  obtain ⟨-, behind, -⟩ := order
  have belongs := mem_listedServices.mpr listed
  rw [cut, List.mem_append, List.mem_cons] at belongs
  rcases belongs with front | rfl | back
  · exact front
  · exact absurd less (Nat.lt_irrefl _)
  · exact absurd less (Nat.lt_asymm ((List.pairwise_cons.mp behind).1 other back))

section Scan

/-- A service that has a number is the first one among those that have it. -/
theorem holder?_eq_find? (server : ServerSettings) (listener : UInt16) (services : List Service) :
    holder? server listener services =
      services.find? fun service => server.listener service = listener := by
  induction services with
  | nil => rfl
  | cons service rest inductionHypothesis =>
    rw [holder?, List.find?_cons]
    by_cases has : server.listener service = listener
    · simp [has]
    · simp [has, inductionHypothesis]

/-- What the scan of services finds. As long as it finds nothing, the services so far listen on
different numbers; it stops at the first service with the number of one of them. -/
theorem conflictAmong_cases (server : ServerSettings) (earlier rest : List Service)
    (different : (earlier.reverse.map server.listener).Nodup) :
    (conflictAmong server earlier rest = none ∧
      ((earlier.reverse ++ rest).map server.listener).Nodup) ∨
    ∃ other service front back, conflictAmong server earlier rest = some (other, service) ∧
      rest = front ++ service :: back ∧ ((earlier.reverse ++ front).map server.listener).Nodup ∧
      other ∈ earlier.reverse ++ front ∧ server.listener other = server.listener service := by
  induction rest generalizing earlier with
  | nil => exact .inl ⟨rfl, by simpa using different⟩
  | cons service rest inductionHypothesis =>
    rw [conflictAmong, holder?_eq_find?]
    cases found : earlier.find? fun other => server.listener other = server.listener service with
    | some other =>
      refine .inr ⟨other, service, [], rest, rfl, rfl, by simpa using different, ?_, ?_⟩
      · simpa using List.mem_of_find?_eq_some found
      · simpa using List.find?_some found
    | none =>
      -- The scan keeps the services so far with the newest one in front.
      have apart : (((service :: earlier).reverse).map server.listener).Nodup := by
        rw [List.reverse_cons, List.map_append, List.nodup_append]
        refine ⟨different, List.nodup_singleton _, ?_⟩
        simpa using List.find?_eq_none.mp found
      rcases inductionHypothesis _ apart with
        ⟨nothing, all⟩ | ⟨other, later, front, back, stops, rfl, soFar, there, shared⟩
      · exact .inl ⟨nothing, by simpa using all⟩
      · exact .inr ⟨other, later, service :: front, back, stops, rfl, by simpa using soFar,
          by simpa using there, shared⟩

end Scan

/-- What is found is the first clash, and nothing is found only if there is none. -/
theorem conflict?_cases (server : ServerSettings) (labels : List String) :
    (conflict? server labels = none ∧ ∀ one other, one.label ∈ labels → other.label ∈ labels →
      server.listener one = server.listener other → one = other) ∨
    ∃ other service, conflict? server labels = some (other, service) ∧
      FirstClash server labels other service := by
  rcases conflictAmong_cases server [] (listedServices labels) List.nodup_nil with
    ⟨nothing, all⟩ | ⟨other, service, front, back, stops, cut, soFar, there, shared⟩
  · refine .inl ⟨nothing, fun one other oneListed otherListed same => ?_⟩
    exact List.inj_on_of_nodup_map all (mem_listedServices.mpr oneListed)
      (mem_listedServices.mpr otherListed) same
  · have order := pairwise_listedServices labels
    rw [cut, List.pairwise_append] at order
    obtain ⟨-, -, before⟩ := order
    have onList : ∀ one ∈ front ++ service :: back, one.label ∈ labels := fun one belongs =>
      mem_listedServices.mp (cut ▸ belongs)
    rw [List.reverse_nil, List.nil_append] at soFar there
    refine .inr ⟨other, service, stops, ⟨before other there service List.mem_cons_self,
      onList other (List.mem_append_left _ there),
      onList service (List.mem_append_right _ List.mem_cons_self), shared⟩, ?first, ?only⟩
    case first =>
      intro one after clash
      by_contra less
      have afterFront := mem_front_of_place_lt cut clash.listed (Nat.lt_of_not_le less)
      have oneFront := mem_front_of_place_lt cut clash.otherListed
        (Nat.lt_trans clash.earlier (Nat.lt_of_not_le less))
      exact clash.ne (List.inj_on_of_nodup_map soFar oneFront afterFront clash.shared)
    case only =>
      intro one clash
      have oneFront := mem_front_of_place_lt cut clash.otherListed clash.earlier
      exact List.inj_on_of_nodup_map soFar oneFront there (clash.shared.trans shared.symm)

/-- The first clash is found. -/
theorem conflict?_eq_some_iff :
    conflict? server labels = some (other, service) ↔ FirstClash server labels other service := by
  rcases conflict?_cases server labels with ⟨nothing, different⟩ | ⟨before, after, found, clash⟩
  · rw [nothing]
    refine iff_of_false (by simp) fun clash => ?_
    exact clash.ne (different other service clash.otherListed clash.listed clash.shared)
  · rw [found]
    constructor
    · rintro ⟨⟩
      exact clash
    · intro first
      obtain ⟨rfl, rfl⟩ := clash.unique first
      rfl

/-- Nothing is found exactly if the services on the list listen on different numbers. -/
theorem conflict?_eq_none_iff :
    conflict? server labels = none ↔ ∀ one other, one.label ∈ labels → other.label ∈ labels →
      server.listener one = server.listener other → one = other := by
  rcases conflict?_cases server labels with ⟨nothing, different⟩ | ⟨before, after, found, clash⟩
  · exact iff_of_true nothing different
  · rw [found]
    refine iff_of_false (by simp) fun different => ?_
    exact clash.ne (different before after clash.otherListed clash.listed clash.shared)

section Dependence

variable {changed : ServerSettings} {others : List String}

/-- Two lists of labels have the same services on them, which listen on the same numbers. -/
structure SameOnList (server changed : ServerSettings) (labels others : List String) : Prop where
  services : ∀ service : Service, service.label ∈ labels ↔ service.label ∈ others
  numbers : ∀ service : Service, service.label ∈ labels →
    server.listener service = changed.listener service

/-- What is the same is so in both directions. -/
theorem SameOnList.symm (same : SameOnList server changed labels others) :
    SameOnList changed server others labels where
  services service := (same.services service).symm
  numbers service listed := (same.numbers service ((same.services service).mpr listed)).symm

/-- A clash depends on the services on the list and on their numbers. -/
theorem Clash.congr (clash : Clash server labels other service)
    (same : SameOnList server changed labels others) : Clash changed others other service where
  earlier := clash.earlier
  otherListed := (same.services other).mp clash.otherListed
  listed := (same.services service).mp clash.listed
  shared := by
    rw [← same.numbers other clash.otherListed, clash.shared, same.numbers service clash.listed]

/-- The first clash depends on the services on the list and on their numbers. -/
theorem FirstClash.congr (clash : FirstClash server labels other service)
    (same : SameOnList server changed labels others) : FirstClash changed others other service where
  toClash := clash.toClash.congr same
  first before after there := clash.first before after (there.congr same.symm)
  only before there := clash.only before (there.congr same.symm)

/-- What is found depends on the services on the list and on their numbers. -/
theorem conflict?_congr (same : SameOnList server changed labels others) :
    conflict? server labels = conflict? changed others := by
  refine Option.ext fun ⟨other, service⟩ => ?_
  rw [conflict?_eq_some_iff, conflict?_eq_some_iff]
  exact ⟨fun clash => clash.congr same, fun clash => clash.congr same.symm⟩

end Dependence

/-- The fault of two services that listen on one number. -/
def clashFault (server : ServerSettings) (other service : Service) : SettingsFault :=
  .refused (other.label ++ " and " ++ service.label ++ " both configured on port " ++
    Text.decimal (server.listener service).toNat)

/-- The check passes if nothing is found, and else complains about what is found. -/
theorem checkListeners_eq (settings : Settings) (labels : List String) :
    settings.checkListeners labels = match conflict? settings.server labels with
      | some (other, service) => .error (clashFault settings.server other service)
      | none => .ok () :=
  rfl

/-- The check passes exactly if nothing is found. -/
theorem checkListeners_eq_ok_iff {settings : Settings} {labels : List String} :
    settings.checkListeners labels = .ok () ↔ conflict? settings.server labels = none := by
  rw [checkListeners_eq]
  cases conflict? settings.server labels <;> simp

/-- The check of listeners passes exactly if the services on the list listen on different numbers,
and else it complains about the first clash. Both depend on the services on the list and on their
numbers only, in whatever order and how often they are listed, and no longer list passes if a
shorter one does not. -/
theorem checkListeners_tells_firstClash (settings : Settings) (labels : List String) :
    (settings.checkListeners labels = .ok () ↔
      ∀ one other, one.label ∈ labels → other.label ∈ labels →
        settings.server.listener one = settings.server.listener other → one = other) ∧
    (∀ fault, settings.checkListeners labels = .error fault ↔
      ∃ other service, FirstClash settings.server labels other service ∧
        fault = clashFault settings.server other service) ∧
    (∀ (changed : Settings) others, SameOnList settings.server changed.server labels others →
      settings.checkListeners labels = changed.checkListeners others) ∧
    (∀ more, labels ⊆ more → settings.checkListeners labels ≠ .ok () →
      settings.checkListeners more ≠ .ok ()) := by
  refine ⟨checkListeners_eq_ok_iff.trans conflict?_eq_none_iff, ?told, ?same, ?more⟩
  case told =>
    intro fault
    rw [checkListeners_eq]
    cases found : conflict? settings.server labels with
    | none =>
      refine iff_of_false (by simp) ?_
      rintro ⟨other, service, clash, -⟩
      rw [conflict?_eq_some_iff.mpr clash] at found
      cases found
    | some pair =>
      obtain ⟨other, service⟩ := pair
      have first := conflict?_eq_some_iff.mp found
      constructor
      · intro told
        exact ⟨other, service, first, (Except.error.inj told).symm⟩
      · rintro ⟨before, after, clash, rfl⟩
        obtain ⟨rfl, rfl⟩ := first.unique clash
        rfl
  case same =>
    intro changed others same
    rw [checkListeners_eq, checkListeners_eq, ← conflict?_congr same]
    cases found : conflict? settings.server labels with
    | none => rfl
    | some pair =>
      obtain ⟨other, service⟩ := pair
      have listed := (conflict?_eq_some_iff.mp found).listed
      simp only [clashFault, same.numbers service listed]
  case more =>
    intro more longer refused passes
    rw [ne_eq, checkListeners_eq_ok_iff, conflict?_eq_none_iff] at refused
    rw [checkListeners_eq_ok_iff, conflict?_eq_none_iff] at passes
    exact refused fun one other oneListed otherListed =>
      passes one other (longer oneListed) (longer otherListed)

/-- Three services on the list listen on one number; the two that come first are told, in whatever
order and how often they are listed, and whatever the others listen on. -/
theorem checkListeners_tells_firstClash_ofThree :
    let server : ServerSettings := { policyListener := 53, dohListener := 53, dotListener := 53 }
    let settings : Settings := { server := server }
    let changed : Settings := { server := { server with cacheListener := 53 } }
    SameOnList server changed.server ["dot", "doh", "policy"]
        ["policy", "mail", "doh", "policy", "dot"] ∧
      settings.checkListeners ["dot", "doh", "policy"] =
        .error (.refused "policy and doh both configured on port 53") ∧
      changed.checkListeners ["policy", "mail", "doh", "policy", "dot"] =
        .error (.refused "policy and doh both configured on port 53") ∧
      settings.checkListeners ["dot", "doh", "policy", "receipt"] ≠ .ok () := by
  intro server settings changed
  obtain ⟨-, -, alike, more⟩ :=
    checkListeners_tells_firstClash settings ["dot", "doh", "policy"]
  have same : SameOnList server changed.server ["dot", "doh", "policy"]
      ["policy", "mail", "doh", "policy", "dot"] := by
    constructor
    · intro service
      cases service <;> decide
    · intro service listed
      cases service with
      | cache => exact absurd listed (by decide)
      | _ => rfl
  have told : settings.checkListeners ["dot", "doh", "policy"] =
      .error (.refused "policy and doh both configured on port 53") := by
    decide
  refine ⟨same, told, (alike changed _ same).symm.trans told, more _ (by simp) ?_⟩
  rw [told]
  simp

end Settings

end GatedResolver
