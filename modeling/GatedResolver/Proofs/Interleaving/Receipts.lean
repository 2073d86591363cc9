import GatedResolver.Proofs.Interleaving.Filing

/-!
# The receipts that a run leaves

Tasks draw their random bits in some order and store their receipts in another one. As long as
no id repeats, a store never takes the place of another receipt, so the ledger holds the
receipts of all tasks that are done and nothing else (`consistent_of_run`). Once the tasks of
all requests are done, these are the receipts that are owed to the clients.
-/

namespace GatedResolver.Filing

open Interleaving (Run)
open Resolver (Collaborators Stage)

/-- The receipts that were made so far, stored or not. -/
def Scene.receipts (scene : Scene) : List Receipt.Signed :=
  scene.clients.filterMap Client.receipt?

/-- What holds between the clients, their tasks and the ledger after any run. -/
structure Consistent (key : Receipt.Key) (scene : Scene) : Prop where
  /-- Each task has to do with what its client waits for. -/
  sound : ∀ client ∈ scene.clients, client.Sound
  /-- Each receipt is signed, under an id out of random bits that were drawn. -/
  issued : ∀ receipt ∈ scene.receipts, key.verify receipt = true ∧
    ∃ number, number < scene.world.drawn ∧
      receipt.id = Receipt.idOf (scene.world.entropy number)
  /-- No two receipts have one id. -/
  distinct : (scene.receipts.map Receipt.Signed.id).Nodup
  /-- The ledger holds the receipts that were stored. -/
  kept : scene.world.memory.entries.Perm (scene.clients.filterMap Client.filedAs?)

/-- A signature fits the payload that it was made for. -/
theorem verify_attest (key : Receipt.Key) (payload : Receipt.Payload) :
    key.verify (key.attest payload) = true := by
  simp [Receipt.Key.verify, Receipt.Key.attest, Receipt.Key.sign, Receipt.signBytes]

section Steps

variable {key : Receipt.Key} {scene next : Scene}

/-- A client that comes has no receipt. -/
theorem Consistent.came (consistent : Consistent key scene) {client : Client}
    (sound : client.Sound) (idle : client.task = none) :
    Consistent key { scene with clients := scene.clients ++ [client] } := by
  have unmade : client.receipt? = none := by simp [Client.receipt?, idle]
  have unfiled : client.filedAs? = none := by simp [Client.filedAs?, Client.filed?, idle]
  have same : (scene.clients ++ [client]).filterMap Client.receipt? = scene.receipts := by
    simp [Scene.receipts, unmade]
  constructor
  · intro other member
    rcases List.mem_append.mp member with old | new
    · exact consistent.sound other old
    · exact List.mem_singleton.mp new ▸ sound
  · simpa only [Scene.receipts, same] using consistent.issued
  · simpa only [Scene.receipts, same] using consistent.distinct
  · simpa [unfiled] using consistent.kept

/-- What the clients have, one client apart from the others. -/
theorem filterMap_perm {β : Type} (value? : Client → Option β) (before after : List Client)
    (client : Client) :
    ((before ++ client :: after).filterMap value?).Perm
      ((value? client).toList ++ (before ++ after).filterMap value?) := by
  cases known : value? client <;> simp [known]

/-- A stored receipt was made. -/
theorem Client.receipt?_of_filed {client : Client} {receipt : Receipt.Signed}
    (filed : client.filed? = some receipt) : client.receipt? = some receipt := by
  obtain ⟨front, task, dropped⟩ := client
  rcases task with _ | record | made | ⟨made, location⟩ <;> cases filed
  rfl

/-- An id that is fresh among the receipts is no key of the ledger. -/
theorem unknown_of_distinct {entries : List (String × Receipt.Signed)} {others : List Client}
    {receipt : Receipt.Signed}
    (distinct : receipt.id ∉ (others.filterMap Client.receipt?).map Receipt.Signed.id)
    (kept : entries.Perm (others.filterMap Client.filedAs?)) :
    ∀ entry ∈ entries, entry.1 ≠ receipt.id := by
  rintro entry member same
  obtain ⟨other, among, filed⟩ := List.mem_filterMap.mp (kept.mem_iff.mp member)
  obtain ⟨found, stored, rfl⟩ := Option.map_eq_some_iff.mp filed
  apply distinct
  rw [← same]
  exact List.mem_map_of_mem
    (List.mem_filterMap.mpr ⟨other, among, Client.receipt?_of_filed stored⟩)

/-- A step of a client keeps the scene consistent, as long as no id repeats. -/
theorem Consistent.act {world other : World} {before after : List Client}
    {client following : Client} (consistent : Consistent key ⟨world, before ++ client :: after⟩)
    (acted : Act key world client other following) (fresh : Fresh other) :
    Consistent key ⟨other, before ++ following :: after⟩ := by
  obtain ⟨sound, issued, distinct, kept⟩ := consistent
  have own : client.Sound := sound client (by simp)
  have soundAfter : ∀ member ∈ before ++ following :: after, member.Sound := by
    intro member among
    rcases List.mem_append.mp among with early | late
    · exact sound member (List.mem_append_left _ early)
    · rcases List.mem_cons.mp late with rfl | later
      · exact acted.sound own
      · exact sound member (List.mem_append_right _ (List.mem_cons_of_mem _ later))
  have receipts := filterMap_perm Client.receipt? before after client
  have receiptsAfter := filterMap_perm Client.receipt? before after following
  have stored := filterMap_perm Client.filedAs? before after client
  have storedAfter := filterMap_perm Client.filedAs? before after following
  simp only [Scene.receipts] at issued distinct
  cases acted.effect own with
  | quiet same made filed =>
    subst same
    have filedAs : following.filedAs? = client.filedAs? := by rw [Client.filedAs?, filed]; rfl
    rw [made] at receiptsAfter
    rw [filedAs] at storedAfter
    have unchanged := receiptsAfter.trans receipts.symm
    refine ⟨soundAfter, ?_, ?_, kept.trans (stored.trans storedAfter.symm)⟩
    · intro receipt member
      exact issued receipt (unchanged.mem_iff.mp member)
    · exact (unchanged.map _).nodup_iff.mpr distinct
  | stamped record drawn unmade unfiled made idle =>
    subst drawn
    rw [made] at receiptsAfter
    rw [unmade] at receipts
    simp only [Client.filedAs?, unfiled, idle] at stored storedAfter
    have added := receiptsAfter.trans (receipts.symm.cons _)
    refine ⟨soundAfter, ?_, ?_, kept.trans (stored.trans storedAfter.symm)⟩
    · intro receipt member
      rcases List.mem_cons.mp (added.mem_iff.mp member) with rfl | old
      · exact ⟨verify_attest key _, world.drawn, Nat.lt_succ_self _, rfl⟩
      · obtain ⟨verified, number, earlier, same⟩ := issued receipt old
        exact ⟨verified, number, Nat.lt_succ_of_lt earlier, same⟩
    · refine (added.map _).nodup_iff.mpr (List.nodup_cons.mpr ⟨?_, distinct⟩)
      intro repeated
      obtain ⟨receipt, old, same⟩ := List.mem_map.mp repeated
      obtain ⟨-, number, earlier, id⟩ := issued receipt old
      exact fresh number world.drawn earlier (Nat.lt_succ_self _) (id.symm.trans same)
  | stored receipt keeps ready made unfiled filed =>
    subst keeps
    rw [made, ← ready] at receiptsAfter
    simp only [Client.filedAs?, unfiled, filed] at stored storedAfter
    have unchanged := receiptsAfter.trans receipts.symm
    have others := kept.trans stored
    have unknown : ∀ entry ∈ world.memory.entries, entry.1 ≠ receipt.id := by
      rw [ready] at receipts
      have apart := (receipts.map Receipt.Signed.id).nodup_iff.mp distinct
      exact unknown_of_distinct (List.nodup_cons.mp apart).1 others
    refine ⟨soundAfter, ?_, ?_, ?_⟩
    · intro made member
      exact issued made (unchanged.mem_iff.mp member)
    · exact (unchanged.map _).nodup_iff.mpr distinct
    · refine List.Perm.trans ?_ storedAfter.symm
      rw [Table.entries_set_of_unknown unknown]
      exact (List.perm_append_singleton _ _).trans (others.cons _)

/-- Changes elsewhere in the process keep the scene consistent. -/
theorem Consistent.passed (consistent : Consistent key scene) {world : World}
    (aside : Aside scene.world world) : Consistent key { scene with world := world } := by
  constructor
  · exact consistent.sound
  · rw [aside.drawn, aside.entropy]
    exact consistent.issued
  · exact consistent.distinct
  · rw [aside.memory]
    exact consistent.kept

/-- Any step keeps the scene consistent, as long as no id repeats. -/
theorem Consistent.step (consistent : Consistent key scene) {event : Event}
    (step : Step key scene event next) (fresh : Fresh next.world) : Consistent key next := by
  cases step with
  | resolve request => exact consistent.came rfl rfl
  | post body =>
    refine consistent.came ?_ rfl
    rintro task started
    cases started
  | @act before after client following world here acted =>
    obtain ⟨current, clients⟩ := scene
    cases here
    exact consistent.act acted fresh
  | passed aside => exact consistent.passed aside

/-- Random bits that give different ids after a step did so before it. -/
theorem fresh_of_step {event : Event} (step : Step key scene event next)
    (fresh : Fresh next.world) : Fresh scene.world := by
  cases step with
  | resolve request => exact fresh
  | post body => exact fresh
  | act here acted =>
    cases acted with
    | called due leads honest => exact fresh
    | took taken => exact fresh
    | refused taken => exact fresh
    | left waits => exact fresh
    | stamped works due =>
      intro first second earlier drawn
      exact fresh first second earlier (Nat.lt_succ_of_lt drawn)
    | stored works ready put =>
      cases put
      exact fresh
  | passed aside =>
    intro first second earlier drawn
    have distinct := fresh first second earlier
    simp only [aside.drawn, aside.entropy] at distinct
    exact distinct drawn

end Steps

/-- Every run from an empty ledger in which no id repeats leaves a consistent scene. -/
theorem consistent_of_run {key : Receipt.Key} {world : World} {events : List Event} {scene : Scene}
    (run : Run (Step key) ⟨world, []⟩ events scene) (empty : world.memory = .empty)
    (fresh : Fresh scene.world) : Consistent key scene := by
  induction run with
  | refl =>
    constructor
    · intro client member
      cases member
    · intro receipt member
      cases member
    · exact List.nodup_nil
    · rw [empty]
      exact List.Perm.refl []
  | step prior transition inductionHypothesis =>
    exact (inductionHypothesis (fresh_of_step transition fresh)).step transition fresh

/-- A client whose task is done, if it has one, has a receipt for the record that it is owed one
for, and none if it is owed none. -/
theorem Client.Sound.record_filed {client : Client} (sound : client.Sound)
    (settled : client.Settled) :
    client.filed?.map (fun receipt => receipt.payload.record) = client.owed? := by
  obtain ⟨front, task, dropped⟩ := client
  unfold Sound at sound
  split at sound
  · next request resolution asks =>
    obtain ⟨known, rfl, record⟩ := sound
    cases asks
    obtain ⟨receipt, location, rfl⟩ := settled known rfl
    exact congrArg some record
  · next request resolution asks =>
    obtain ⟨receipt, location, rfl, record⟩ := sound
    cases asks
    exact congrArg some record
  · next request stage unsubmitted unfinished asks =>
    cases asks
    cases sound
    cases stage with
    | submit resolution => exact absurd rfl (unsubmitted resolution)
    | finished outcome =>
      cases outcome with
      | ok resolution => exact absurd rfl (unfinished resolution)
      | error failure => rfl
    | _ => rfl
  · next body asks =>
    cases asks
    cases task with
    | none => rfl
    | some task => simp [filed?, owed?, (sound task rfl).1]
  · next body response asks =>
    cases asks
    rcases sound with ⟨rfl, refused⟩ | ⟨receipt, location, rfl, taken, rfl⟩
    · simp [filed?, owed?, status_of_refused refused]
    · simp only [filed?, owed?, taken]
      rfl

/-- The receipt of a client that was told so is the one that its ticket names. -/
theorem Client.Sound.ticket {client : Client} (sound : client.Sound) {body : Bytes}
    {response : Http.Response} (asks : client.front = .posting body (some response))
    (created : response.status = 201) :
    ∃ receipt location, client.filed? = some receipt ∧
      response = .json 201 (Receipt.Ticket.toJson ⟨receipt.id, location⟩) := by
  obtain ⟨front, task, dropped⟩ := client
  cases asks
  rcases sound with ⟨-, refused⟩ | ⟨receipt, location, rfl, -, told⟩
  · exact absurd created (status_of_refused refused)
  · exact ⟨receipt, location, rfl, told⟩

/-- The ids of stored receipts are among the ids of receipts that were made. -/
theorem filed_sublist (clients : List Client) :
    ((clients.filterMap Client.filedAs?).map Prod.fst).Sublist
      ((clients.filterMap Client.receipt?).map Receipt.Signed.id) := by
  induction clients with
  | nil => exact .slnil
  | cons client rest inductionHypothesis =>
    obtain ⟨front, task, dropped⟩ := client
    rcases task with _ | record | receipt | ⟨receipt, location⟩
    · exact inductionHypothesis
    · exact inductionHypothesis
    · exact inductionHypothesis.cons _
    · exact inductionHypothesis.cons_cons _

/-- A process that has not signed anything yet, and has few random bits. -/
def freshProcess : World where
  files := .empty
  entropy := fun number => Vector.replicate 16 (UInt8.ofNat number)

end GatedResolver.Filing
