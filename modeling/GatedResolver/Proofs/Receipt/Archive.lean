import GatedResolver.Proofs.Http.Segment
import GatedResolver.Proofs.Interleaving.Unpaused
import GatedResolver.Proofs.Receipt.Simulation

/-!
# Receipts stay readable

A service signs the records that are handed in and keeps the receipts in the files of a directory,
into which nobody else writes and where no file of a receipt is a link. A receipt that was handed
out is `Filed`: its file holds its text, and no later receipt gets its id. Both stay so in every
run, so a lookup finds the receipt with a storable record as it was signed.
-/

namespace GatedResolver.Archive

open FileSystem (pathIn)
open Http (Request Response)
open Interleaving (Run)
open Receipt (fileName isShortId_idOf)

/-- A signer that keeps its receipts in the files of a directory. -/
def signer (key : Receipt.Key) (directory : String) : Receipt.Signer World :=
  ⟨key, World.fileLedger directory, World.stamp⟩

/-- A signer that is built for a directory keeps its receipts there. -/
theorem signerOf_inFiles {settings : ReceiptSettings} (inFiles : settings.directory.isEmpty = false)
    (random : Bytes) :
    Components.signerOf settings random =
      signer (Receipt.Secret.ofSettings settings.secret random).key settings.directory := by
  simp [Components.signerOf, World.ledger, inFiles, signer]

/-- What the service does with a request. -/
def respond (key : Receipt.Key) (directory : String) (request : Request) : StateM World Response :=
  (Site.receipts (signer key directory)).respond request

/-- The files and the random bits are left alone. -/
structure Aside (world other : World) : Prop where
  files : other.files = world.files
  entropy : other.entropy = world.entropy
  drawn : other.drawn = world.drawn

/-- What happens around the service. -/
inductive Event where
  /-- The service gets a request. -/
  | asked (request : Request)
  /-- Something else in the process changes, or time passes. -/
  | passed

/-- One step of the service or of what is around it. -/
inductive Step (key : Receipt.Key) (directory : String) (world : World) : Event → World → Prop where
  | asked (request : Request) :
      Step key directory world (.asked request) (respond key directory request world).2
  | passed {other : World} (aside : Aside world other) : Step key directory world .passed other

/-- The receipt is in its file, and its id is one that was drawn. -/
structure Filed (directory : String) (receipt : Receipt.Signed) (world : World) : Prop where
  issued : ∃ number < world.drawn, receipt.id = Receipt.idOf (world.entropy number)
  held : world.files.read (pathIn directory (fileName receipt.id)) = .ok receipt.toJson.indented

/-- The request for the receipt with an id. -/
def lookupOf (id : String) : Request :=
  ⟨.get, ⟨"/receipt/" ++ id, none⟩, []⟩

section Requests

variable {key : Receipt.Key} {directory : String} {world : World} {request : Request}

/-- What is posted is taken as a record that is handed in. -/
theorem respond_post (posts : request.method = .post) (path : request.target.path = "/receipt") :
    respond key directory request world =
      Site.takeBody (Site.submitRecord (signer key directory)) request world :=
  Filing.respond_receipts (signer key directory) posts path world

/-- A service tells that it is up, takes records, and looks up receipts. -/
theorem resource_cases {path : String} {resource : Resource (StateM World)}
    (found : Site.receipts (signer key directory) path = some resource) :
    resource = Site.health ∨
      resource = { post := some (Site.takeBody (Site.submitRecord (signer key directory))) } ∨
      ∃ segment, resource = { get := some fun _ => Site.fetchReport (signer key directory) segment } := by
  unfold Site.receipts at found
  split at found
  · exact .inl (Option.some.inj found).symm
  · split at found
    · exact .inr (.inl (Option.some.inj found).symm)
    · obtain ⟨segment, -, same⟩ := Option.map_eq_some_iff.mp found
      exact .inr (.inr ⟨segment, same.symm⟩)

/-- A lookup leaves the state as it is. -/
theorem fetchReport_snd (segment : String) :
    (Site.fetchReport (signer key directory) segment world).2 = world := by
  unfold Site.fetchReport
  split <;> rfl

/-- A response and the state after it that come of a record: the record is submitted, and a ticket
is handed out. -/
def Submitted (key : Receipt.Key) (directory : String) (world : World) (record : Json.Value)
    (answered : Response × World) : Prop :=
  answered.2 = ((signer key directory).submit record world).2 ∧
    ∀ ticket : Receipt.Ticket, ((signer key directory).submit record world).1 = .ok ticket →
      answered.1 = .json 201 ticket.toJson

/-- What is done with a body leaves the state as it is or submits a record. -/
theorem takeBody_cases (key : Receipt.Key) (directory : String) (request : Request) (world : World) :
    (Site.takeBody (Site.submitRecord (signer key directory)) request world).2 = world ∨
      ∃ record, Submitted key directory world record
        (Site.takeBody (Site.submitRecord (signer key directory)) request world) := by
  rw [Filing.takeBody_submitRecord]
  cases Filing.handedIn request.body with
  | error refusal => exact .inl rfl
  | ok record =>
    refine .inr ⟨record, ?_⟩
    unfold Submitted
    simp only
    split
    · next ticket stored submitted =>
      rw [submitted]
      exact ⟨rfl, fun told same => Except.ok.inj same ▸ rfl⟩
    · next failure stored submitted =>
      rw [submitted]
      exact ⟨rfl, nofun⟩

/-- A request leaves the state as it is or submits a record. -/
theorem respond_cases (key : Receipt.Key) (directory : String) (request : Request) (world : World) :
    (respond key directory request world).2 = world ∨
      ∃ record, Submitted key directory world record (respond key directory request world) := by
  have left : (respond key directory request world).2 =
      ((Site.receipts (signer key directory)).answer request world).2 := rfl
  cases found : Site.receipts (signer key directory) request.target.path with
  | none =>
    rw [left, Site.answer, found]
    exact .inl rfl
  | some resource =>
    rcases resource_cases found with rfl | rfl | ⟨segment, rfl⟩
    · rw [left, Site.answer, found]
      cases request.method <;> exact .inl rfl
    · cases posts : request.method with
      | post =>
        have taken : respond key directory request world =
            Site.takeBody (Site.submitRecord (signer key directory)) request world := by
          simp only [respond, Site.respond, Site.answer, found, posts, Resource.handler?]
          rfl
        rw [taken]
        exact takeBody_cases key directory request world
      | _ =>
        rw [left, Site.answer, found, posts]
        exact .inl rfl
    · rw [left, Site.answer, found]
      cases request.method with
      | get | head => exact .inl (fetchReport_snd segment)
      | _ => exact .inl rfl

/-- A lookup looks for the receipt that its segment names, if that is one segment. -/
theorem respond_lookupOf (key : Receipt.Key) (directory segment : String) (world : World) :
    respond key directory (lookupOf segment) world =
      if segment.isEmpty || segment.toList.contains '/' then
        (Site.noRoute ("/receipt/" ++ segment), world)
      else Site.fetchReport (signer key directory) segment world := by
  have elsewhere : "/receipt/" ++ segment ≠ "/health" ∧ "/receipt/" ++ segment ≠ "/receipt" := by
    constructor <;> intro same <;> have characters := congrArg String.toList same <;>
      simp at characters
  have answered : respond key directory (lookupOf segment) world =
      (Site.receipts (signer key directory)).answer (lookupOf segment) world := rfl
  have found : Site.receipts (signer key directory) (lookupOf segment).target.path =
      if segment.isEmpty || segment.toList.contains '/' then none
      else some { get := some fun _ => Site.fetchReport (signer key directory) segment } := by
    rw [lookupOf, Site.receipts, if_neg elsewhere.1, if_neg elsewhere.2,
      Http.segmentBehind?_append]
    split <;> rfl
  rw [answered, Site.answer, found]
  split <;> rfl

/-- The id of a file is a segment that stands for itself. -/
theorem names_of_isFileId {id : String} (digits : Receipt.isFileId id = true) :
    Http.Names id id := by
  have plain : ∀ character ∈ id.toList, _ := fun character member =>
    @Receipt.digit_of_isFileId id digits character member
  refine ⟨(Receipt.isFileId_iff.mp digits).1, fun member => (plain '/' member).2.1 rfl, ?_⟩
  exact Http.segmentText?_of_noEscape fun character member =>
    ⟨(plain character member).1, (plain character member).2.2.2⟩

/-- A lookup reports the receipt that is kept under the text that its segment stands for. -/
theorem respond_lookupOf_names {segment id : String} (names : Http.Names segment id) :
    respond key directory (lookupOf segment) world =
      (Site.serveReport ((signer key directory).report world id), world) := by
  have single : (segment.isEmpty || segment.toList.contains '/') = false := by
    rw [names.present]
    simpa using names.single
  rw [respond_lookupOf, single, if_neg Bool.false_ne_true, Site.fetchReport, names.text]

/-- A lookup of a short id reports the receipt that is kept under it. -/
theorem respond_lookupOf_short {id : String} (shortId : Receipt.IsShortId id) :
    respond key directory (lookupOf id) world =
      (Site.serveReport ((signer key directory).report world id), world) :=
  respond_lookupOf_names (names_of_isFileId shortId.digits)

/-- A lookup of a short id shows a receipt with a storable record that is in its file. -/
theorem respond_of_held {id : String} (shortId : Receipt.IsShortId id) {receipt : Receipt.Signed}
    (storable : Receipt.Storable receipt.payload.record)
    (held : world.files.read (pathIn directory (fileName id)) = .ok receipt.toJson.indented) :
    respond key directory (lookupOf id) world =
      (.json 200 (Receipt.Report.toJson ⟨receipt, key.verify receipt⟩), world) := by
  have fetched : (signer key directory).ledger.fetch world id = .ok (some receipt) :=
    Receipt.fetchFile_of_read storable shortId.digits held
  rw [respond_lookupOf_short shortId, Receipt.Signer.report, fetched]
  rfl

end Requests

/-- A record that is handed in is what the body says. -/
theorem ofText_of_handedIn {body : Bytes} {record : Json.Value}
    (taken : Filing.handedIn body = .ok record) : Json.Value.ofText body = .ok record := by
  unfold Filing.handedIn Site.submittedRecord at taken
  split at taken
  · cases taken
  · split at taken
    · cases taken
    · split at taken
      · cases taken
      · cases taken
      · next value _ read =>
        cases taken
        exact read

section Receipts

variable {key : Receipt.Key} {directory : String} {receipt : Receipt.Signed} {world next : World}

/-- The receipt that a record gets. -/
def issue (key : Receipt.Key) (world : World) (record : Json.Value) : Receipt.Signed :=
  key.attest ⟨Receipt.idOf (world.entropy world.drawn), world.clock, record⟩

/-- A record is submitted by storing its receipt, which uses up random bits. -/
theorem submit_eq (key : Receipt.Key) (directory : String) (record : Json.Value) (world : World) :
    (signer key directory).submit record world =
      ((Receipt.storeFile directory world.files (issue key world record)).1.map fun location =>
          ⟨(issue key world record).id, location⟩,
        { world with
          files := (Receipt.storeFile directory world.files (issue key world record)).2,
          drawn := world.drawn + 1 }) := by
  simp only [Receipt.Signer.submit, signer, World.stamp, World.fileLedger, Receipt.fileLedger,
    Receipt.Signer.receiptFor, issue]

/-- A record that is submitted uses up random bits. Its receipt is written into its file, or new
directories are all that is left of it. -/
theorem submit_cases (key : Receipt.Key) (directory : String) (record : Json.Value)
    (world : World) :
    ∃ files, ((signer key directory).submit record world).2 =
        { world with files := files, drawn := world.drawn + 1 } ∧
      ((∃ failure, ((signer key directory).submit record world).1 = .error failure ∧
          world.files.Grows files) ∨
        ∃ prepared, ((signer key directory).submit record world).1 =
            .ok ⟨(issue key world record).id,
              pathIn directory (fileName (issue key world record).id)⟩ ∧
          world.files.Grows prepared ∧
          prepared.write (pathIn directory (fileName (issue key world record).id))
            (issue key world record).toJson.indented = .ok files) := by
  rw [submit_eq]
  rcases Receipt.storeFile_cases directory world.files (issue key world record) with
    ⟨failure, later, stored, grows⟩ | ⟨prepared, written, -, created, done, stored⟩
  · rw [stored]
    exact ⟨later, rfl, .inl ⟨failure, rfl, grows.grows⟩⟩
  · have grows := (FileSystem.growsAlong_of_created created).grows
    rw [stored]
    exact ⟨written, rfl, .inr ⟨prepared, rfl, grows, done⟩⟩

/-- A receipt that is submitted with success is filed. -/
theorem filed_of_submit {record : Json.Value} {ticket : Receipt.Ticket}
    (kept : ((signer key directory).submit record world).1 = .ok ticket) :
    ticket.id = (issue key world record).id ∧
      Filed directory (issue key world record) ((signer key directory).submit record world).2 := by
  obtain ⟨files, left, ⟨failure, failed, -⟩ | ⟨prepared, told, -, done⟩⟩ :=
    submit_cases key directory record world
  · rw [failed] at kept
    cases kept
  · rw [told] at kept
    cases kept
    rw [left]
    exact ⟨rfl, ⟨world.drawn, Nat.lt_succ_self _, rfl⟩,
      FileSystem.read_written (isShortId_idOf _).plain done⟩

/-- A receipt stays filed when another record is submitted, as long as no id repeats. -/
theorem Filed.submit (filed : Filed directory receipt world)
    (unlinked : Receipt.Unlinked directory world.files) (record : Json.Value)
    (fresh : Filing.Fresh ((signer key directory).submit record world).2) :
    Filed directory receipt ((signer key directory).submit record world).2 := by
  obtain ⟨⟨number, earlier, known⟩, held⟩ := filed
  obtain ⟨files, left, cases⟩ := submit_cases key directory record world
  rw [left] at fresh ⊢
  refine ⟨⟨number, Nat.lt_succ_of_lt earlier, known⟩, ?_⟩
  rcases cases with ⟨-, -, grows⟩ | ⟨prepared, -, grows, done⟩
  · exact grows.read held
  · have apart : receipt.id ≠ (issue key world record).id := by
      rw [known]
      exact fresh number world.drawn earlier (Nat.lt_succ_self _)
    rw [known] at apart held ⊢
    have plain := (isShortId_idOf (world.entropy world.drawn)).plain
    refine FileSystem.read_write_of_apart plain.noSlash plain.step.1 (fun location led => ?_) done
      (grows.read held)
    exact Receipt.locate_fileName_ne (isShortId_idOf _).digits (isShortId_idOf _).digits apart.symm
      ((unlinked _ (isShortId_idOf _)).grows grows) ((unlinked _ (isShortId_idOf _)).grows grows) led

/-- A request uses up random bits for one receipt at most. -/
theorem drawn_respond (key : Receipt.Key) (directory : String) (request : Request) (world : World) :
    (respond key directory request world).2.entropy = world.entropy ∧
      world.drawn ≤ (respond key directory request world).2.drawn ∧
      (respond key directory request world).2.drawn ≤ world.drawn + 1 := by
  rcases respond_cases key directory request world with same | ⟨record, same, -⟩
  · rw [same]
    exact ⟨rfl, Nat.le_refl _, Nat.le_succ _⟩
  · obtain ⟨files, left, -⟩ := submit_cases key directory record world
    rw [same, left]
    exact ⟨rfl, Nat.le_succ _, Nat.le_refl _⟩

/-- As long as no id repeats, none did before. -/
theorem Step.fresh {event : Event} (step : Step key directory world event next)
    (fresh : Filing.Fresh next) : Filing.Fresh world := by
  have grown : next.entropy = world.entropy ∧ world.drawn ≤ next.drawn := by
    cases step with
    | passed aside => exact ⟨aside.entropy, Nat.le_of_eq aside.drawn.symm⟩
    | asked request =>
      obtain ⟨same, more, -⟩ := drawn_respond key directory request world
      exact ⟨same, more⟩
  intro first second earlier before
  rw [← grown.1]
  exact fresh first second earlier (Nat.lt_of_lt_of_le before grown.2)

/-- A step makes no links. -/
theorem Step.unlinked {event : Event} (step : Step key directory world event next)
    (unlinked : Receipt.Unlinked directory world.files) :
    Receipt.Unlinked directory next.files := by
  cases step with
  | passed aside =>
    rw [aside.files]
    exact unlinked
  | asked request =>
    rcases respond_cases key directory request world with same | ⟨record, same, -⟩
    · rw [same]
      exact unlinked
    · rw [same, submit_eq]
      exact unlinked.store _

/-- A receipt stays filed in a step, as long as no id repeats. -/
theorem Filed.step {event : Event} (filed : Filed directory receipt world)
    (unlinked : Receipt.Unlinked directory world.files)
    (step : Step key directory world event next) (fresh : Filing.Fresh next) :
    Filed directory receipt next := by
  cases step with
  | passed aside =>
    obtain ⟨⟨number, earlier, known⟩, held⟩ := filed
    refine ⟨⟨number, ?_, ?_⟩, ?_⟩
    · rw [aside.drawn]
      exact earlier
    · rw [aside.entropy]
      exact known
    · rw [aside.files]
      exact held
  | asked request =>
    rcases respond_cases key directory request world with same | ⟨record, same, -⟩
    · rw [same]
      exact filed
    · rw [same] at fresh ⊢
      exact filed.submit unlinked record fresh

/-- A run makes no links. -/
theorem unlinked_of_run {events : List Event} {later : World}
    (unlinked : Receipt.Unlinked directory world.files)
    (run : Run (Step key directory) world events later) :
    Receipt.Unlinked directory later.files := by
  induction run with
  | refl => exact unlinked
  | step prior transition inductionHypothesis => exact transition.unlinked inductionHypothesis

/-- A receipt stays filed in a run, as long as no id repeats. -/
theorem Filed.run {events : List Event} {later : World} (filed : Filed directory receipt world)
    (unlinked : Receipt.Unlinked directory world.files)
    (run : Run (Step key directory) world events later) (fresh : Filing.Fresh later) :
    Filed directory receipt later := by
  induction run with
  | refl => exact filed
  | step prior transition inductionHypothesis =>
    exact (inductionHypothesis (transition.fresh fresh)).step (unlinked_of_run unlinked prior)
      transition fresh

/-- A body that is accepted holds a record, whose receipt is signed and filed. -/
theorem filed_of_accepted {request : Request} (posts : request.method = .post)
    (path : request.target.path = "/receipt")
    (accepted : (respond key directory request world).1.status = 201) :
    ∃ (receipt : Receipt.Signed) (ticket : Receipt.Ticket),
      Json.Value.ofText request.body = .ok receipt.payload.record ∧
      (respond key directory request world).1 = .json 201 ticket.toJson ∧
      ticket.id = receipt.id ∧ key.verify receipt = true ∧
      Filed directory receipt (respond key directory request world).2 := by
  rw [respond_post posts path, Filing.takeBody_submitRecord] at accepted ⊢
  cases taken : Filing.handedIn request.body with
  | error refusal =>
    rw [taken] at accepted
    exact absurd accepted (Filing.status_of_refused taken)
  | ok record =>
    rw [taken] at accepted
    simp only at accepted ⊢
    split at accepted
    · next ticket stored submitted =>
      obtain ⟨named, filed⟩ := @filed_of_submit key directory world record ticket (by rw [submitted])
      rw [submitted] at filed
      exact ⟨issue key world record, ticket, ofText_of_handedIn taken, rfl, named,
        Filing.verify_attest key _, filed⟩
    · next failure stored submitted =>
      cases failure <;> cases accepted

/-- The id of a receipt that is filed is short. -/
theorem Filed.shortId (filed : Filed directory receipt world) : Receipt.IsShortId receipt.id := by
  obtain ⟨⟨number, -, known⟩, -⟩ := filed
  rw [known]
  exact isShortId_idOf _

/-- A lookup of a receipt that is filed fails, if its record begins with the key of enclosures. -/
theorem Filed.lost (filed : Filed directory receipt world)
    (trapped : receipt.payload.record = Receipt.trap) :
    respond key directory (lookupOf receipt.id) world =
      (.ofFailure (.serialization "trailing comma"), world) := by
  have fetched : (signer key directory).ledger.fetch world receipt.id =
      .error (.serialization "trailing comma") :=
    Receipt.fetchFile_of_read_trap trapped filed.shortId.digits filed.held
  rw [respond_lookupOf_short filed.shortId, Receipt.Signer.report, fetched]
  rfl

end Receipts

section Service

variable {key : Receipt.Key} {directory : String} {request : Request} {world later : World}
  {events : List Event}

/-- A record that is accepted is found in every later state, under the id in its ticket, as it was
handed in and with a signature that fits: if each of its numbers is read as it is written, no
object in it begins with the key of enclosures, and it is nested no deeper than the two objects
around it leave room for. The directory may hold any files, as long as none of those of receipts is
a link. -/
theorem readable_of_accepted (unlinked : Receipt.Unlinked directory world.files)
    (posts : request.method = .post) (path : request.target.path = "/receipt")
    (accepted : (respond key directory request world).1.status = 201)
    (run : Run (Step key directory) (respond key directory request world).2 events later)
    (fresh : Filing.Fresh later) :
    ∃ record, ∃ ticket : Receipt.Ticket, Json.Value.ofText request.body = .ok record ∧
      (respond key directory request world).1 = .json 201 ticket.toJson ∧
      (record.isLegible = true → record.isOpen = true → record.depth + 2 ≤ Json.depthLimit →
        ∃ report : Receipt.Report,
          respond key directory (lookupOf ticket.id) later = (.json 200 report.toJson, later) ∧
          report.receipt.payload.id = ticket.id ∧ report.receipt.payload.record = record ∧
          report.verified = true) := by
  obtain ⟨receipt, ticket, read, told, named, verified, filed⟩ :=
    filed_of_accepted posts path accepted
  refine ⟨receipt.payload.record, ticket, read, told, ?_⟩
  intro legible opened shallow
  have storable : Receipt.Storable receipt.payload.record :=
    ⟨Json.canonical_of_ofTextWithin read, legible, opened, shallow⟩
  have asked : Step key directory world (.asked request) _ := .asked request
  have still := filed.run (asked.unlinked unlinked) run fresh
  rw [named]
  exact ⟨⟨receipt, key.verify receipt⟩, respond_of_held still.shortId storable still.held, rfl, rfl,
    verified⟩

/-- A service whose directory has no receipts accepts every record that can be read. -/
theorem accepted_of_vacant (vacant : Receipt.Vacant directory world.files)
    (posts : request.method = .post) (path : request.target.path = "/receipt") {record : Json.Value}
    (taken : Filing.handedIn request.body = .ok record) :
    (respond key directory request world).1.status = 201 := by
  obtain ⟨here, mirrors⟩ := vacant.mirrors
  have shortId : Receipt.IsShortId (issue key world record).id := isShortId_idOf _
  have noDirectory := mirrors.holds _ shortId
  obtain ⟨written, -, stored⟩ := Receipt.storeFile_of_leads (Prod.ext vacant.created rfl)
    mirrors.leads shortId vacant.room (mirrors.unlinked shortId) (by simp [noDirectory])
  rw [respond_post posts path, Filing.takeBody_submitRecord, taken]
  simp only [submit_eq, stored]
  rfl

/-- The request that hands a body in. -/
def postOf (body : Bytes) : Request :=
  ⟨.post, ⟨"/receipt", none⟩, body⟩

/-- The first two ids of a process that has few random bits are different. -/
theorem fresh_of_few (same : world.entropy = Filing.freshProcess.entropy) (few : world.drawn ≤ 2) :
    Filing.Fresh world := by
  intro first second earlier drawn
  obtain ⟨rfl, rfl⟩ : first = 0 ∧ second = 1 := by omega
  rw [same]
  decide

/-- The ids that two requests use up at most are different. -/
theorem fresh_of_requests (key : Receipt.Key) (directory : String) (first second : Request) :
    Filing.Fresh (respond key directory first Filing.freshProcess).2 ∧
      Filing.Fresh (respond key directory second
        (respond key directory first Filing.freshProcess).2).2 := by
  obtain ⟨same, -, once⟩ := drawn_respond key directory first Filing.freshProcess
  generalize (respond key directory first Filing.freshProcess).2 = kept at same once
  have none : Filing.freshProcess.drawn = 0 := rfl
  obtain ⟨still, -, twice⟩ := drawn_respond key directory second kept
  exact ⟨fresh_of_few same (by omega), fresh_of_few (still.trans same) (by omega)⟩

/-- A record is found after another one was handed in. -/
theorem readable_of_accepted_postedTwice :
    let first := respond ⟨[]⟩ "receipts" (postOf (Text.utf8 "[null]")) Filing.freshProcess
    let second := respond ⟨[]⟩ "receipts" (postOf (Text.utf8 "true")) first.2
    ∃ (ticket : Receipt.Ticket) (report : Receipt.Report), first.1 = .json 201 ticket.toJson ∧
      respond ⟨[]⟩ "receipts" (lookupOf ticket.id) second.2 = (.json 200 report.toJson, second.2) ∧
      report.receipt.payload.record = .array [.null] ∧ report.verified = true := by
  intro first second
  have taken : Filing.handedIn (postOf (Text.utf8 "[null]")).body = .ok (.array [.null]) := by
    decide +kernel
  have accepted := @accepted_of_vacant ⟨[]⟩ _ _ Filing.freshProcess Receipt.vacant_empty rfl rfl _
    taken
  have run : Run (Step ⟨[]⟩ "receipts") first.2 _ second.2 := .step .refl (.asked _)
  have fresh : Filing.Fresh second.2 := (fresh_of_requests _ _ _ _).2
  have unlinked := Receipt.unlinked_empty "receipts"
  obtain ⟨record, ticket, read, told, found⟩ :=
    @readable_of_accepted ⟨[]⟩ _ _ Filing.freshProcess _ _ unlinked rfl rfl accepted run fresh
  obtain rfl : record = .array [.null] :=
    Except.ok.inj (read.symm.trans (ofText_of_handedIn taken))
  obtain ⟨report, reported, -, recorded, verified⟩ := found (by decide) (by decide) (by decide)
  exact ⟨ticket, report, told, reported, recorded, verified⟩

/-- A record that begins with the key of enclosures once its members are in order is accepted and
never found. -/
theorem lost_of_accepted (unlinked : Receipt.Unlinked directory world.files)
    (posts : request.method = .post) (path : request.target.path = "/receipt")
    (accepted : (respond key directory request world).1.status = 201)
    (trapped : Json.Value.ofText request.body = .ok Receipt.trap)
    (run : Run (Step key directory) (respond key directory request world).2 events later)
    (fresh : Filing.Fresh later) :
    ∃ ticket : Receipt.Ticket, (respond key directory request world).1 = .json 201 ticket.toJson ∧
      respond key directory (lookupOf ticket.id) later =
        (.ofFailure (.serialization "trailing comma"), later) := by
  obtain ⟨receipt, ticket, read, told, named, -, filed⟩ := filed_of_accepted posts path accepted
  refine ⟨ticket, told, ?_⟩
  have asked : Step key directory world (.asked request) _ := .asked request
  rw [named]
  exact (filed.run (asked.unlinked unlinked) run fresh).lost
    (Except.ok.inj (read.symm.trans trapped))

/-- A body with that record, where the key of enclosures does not come first yet. -/
def trapBody : Bytes :=
  Text.utf8 ("\x7b\"a\":null,\"" ++ Json.enclosureKey ++ "\":\"1\"\x7d")

/-- A record of a service that has not signed anything yet is accepted and not found. -/
theorem accepted_and_lost :
    let first := respond ⟨[]⟩ "receipts" (postOf trapBody) Filing.freshProcess
    ∃ ticket : Receipt.Ticket, first.1 = .json 201 ticket.toJson ∧
      respond ⟨[]⟩ "receipts" (lookupOf ticket.id) first.2 =
        (.ofFailure (.serialization "trailing comma"), first.2) := by
  intro first
  have taken : Filing.handedIn (postOf trapBody).body = .ok Receipt.trap := by decide +kernel
  have accepted := @accepted_of_vacant ⟨[]⟩ _ _ Filing.freshProcess Receipt.vacant_empty rfl rfl _
    taken
  have fresh : Filing.Fresh first.2 := (fresh_of_requests _ _ _ (postOf trapBody)).1
  have unlinked := Receipt.unlinked_empty "receipts"
  exact @lost_of_accepted ⟨[]⟩ _ _ Filing.freshProcess _ _ unlinked rfl rfl accepted
    (ofText_of_handedIn taken) .refl fresh

end Service

end GatedResolver.Archive
