import GatedResolver.Proofs.Receipt.Archive
import GatedResolver.Proofs.Receipt.Canonical

/-!
# What a lookup binds

A lookup shows the receipt that the file of the id holds, with the verdict on its signature. The
signature covers the id in the receipt. The name of the file is not covered, so a receipt that
somebody copied into the file of another id is shown there. The service itself never puts a
receipt into the file of another id (`WellNamed`), unless one of the two files is a link.
-/

namespace GatedResolver.Archive

open FileSystem (pathIn)
open Interleaving (Run)
open Receipt (fileName isFileId isShortId_idOf)

section Names

variable {directory id : String} {files later : FileSystem}

/-- The file of an id holds a receipt with that id, if it holds a receipt, be it that directories on
the way to it are still to be created. -/
def WellNamed (directory id : String) (files : FileSystem) : Prop :=
  ∀ later content receipt, files.Grows later →
    later.read (pathIn directory (fileName id)) = .ok content →
      Receipt.Signed.decoder.decode content = .ok receipt → receipt.id = id

/-- A file stays well-named when directories are created. -/
theorem WellNamed.grows (named : WellNamed directory id files) (grows : files.Grows later) :
    WellNamed directory id later :=
  fun last content receipt further => named last content receipt (grows.trans further)

/-- A file stays well-named when the text of a receipt is written into its file. -/
theorem WellNamed.write (named : WellNamed directory id files)
    (unlinked : Receipt.Unlinked directory files) {receipt : Receipt.Signed}
    (shortId : Receipt.IsShortId id) (otherShort : Receipt.IsShortId receipt.id)
    (done : files.write (pathIn directory (fileName receipt.id)) receipt.toJson.indented =
      .ok later) : WellNamed directory id later := by
  intro last content found grows held decoded
  obtain ⟨location, led, there⟩ := FileSystem.read_iff.mp held
  have keeps := (FileSystem.keeps_write done)
  obtain ⟨place, -, leads, nodes⟩ :=
    FileSystem.write_pathIn_ok otherShort.plain (unlinked _ otherShort) done
  have stillUnlinked := ((unlinked id shortId).keeps keeps leads).grows grows
  obtain ⟨here, others, rfl⟩ := stillUnlinked.locate shortId.plain.noNul shortId.plain.noSlash
    shortId.plain.step led
  obtain rfl : here = place := others.unique (grows.keeps.leads (keeps.leads leads))
  have written : later.node? (here ++ [fileName id]) = some (.file content) := by
    rcases grows.nodes (here ++ [fileName id]) with same | ⟨-, made⟩
    · rw [← same, there]
    · rw [made] at there
      cases there
  rw [nodes] at written
  split at written
  · next same =>
    obtain ⟨-, names⟩ := List.append_inj' same rfl
    cases written
    rw [Receipt.Signed.id_of_decode_indented decoded]
    exact (Receipt.fileName_injective (List.cons.inj names).1).symm
  · have before : files.locate (pathIn directory (fileName id)) = .ok (here ++ [fileName id]) :=
      (FileSystem.locate_pathIn_iff shortId.plain (FileSystem.room_of_locate led)
        (unlinked id shortId).link?).mpr ⟨here, leads, rfl⟩
    exact named files content found (.refl files) (FileSystem.read_iff.mpr ⟨_, before, written⟩)
      decoded

/-- A file stays well-named when a receipt is stored. -/
theorem WellNamed.store (named : WellNamed directory id files)
    (unlinked : Receipt.Unlinked directory files) {receipt : Receipt.Signed}
    (shortId : Receipt.IsShortId id) (otherShort : Receipt.IsShortId receipt.id) :
    WellNamed directory id (Receipt.storeFile directory files receipt).2 := by
  rcases Receipt.storeFile_cases directory files receipt with
    ⟨failure, later, stored, grows⟩ | ⟨prepared, written, -, created, done, stored⟩
  · rw [stored]
    exact named.grows grows.grows
  · have grows := (FileSystem.growsAlong_of_created created).grows
    rw [stored]
    exact (named.grows grows).write (fun id shortId => (unlinked id shortId).grows grows) shortId
      otherShort done

end Names

section Service

variable {key : Receipt.Key} {directory id : String} {start world next : World}

/-- A file stays well-named in a step. -/
theorem Step.wellNamed {event : Event} (step : Step key directory world event next)
    (shortId : Receipt.IsShortId id) (unlinked : Receipt.Unlinked directory world.files)
    (named : WellNamed directory id world.files) : WellNamed directory id next.files := by
  cases step with
  | passed aside =>
    rw [aside.files]
    exact named
  | asked request =>
    rcases respond_cases key directory request world with same | ⟨record, same, -⟩
    · rw [same]
      exact named
    · rw [same, submit_eq]
      exact named.store unlinked shortId (isShortId_idOf _)

/-- A file stays well-named in a run. -/
theorem wellNamed_of_run {events : List Event} {later : World} (shortId : Receipt.IsShortId id)
    (unlinked : Receipt.Unlinked directory start.files)
    (named : WellNamed directory id start.files)
    (run : Run (Step key directory) start events later) :
    WellNamed directory id later.files := by
  induction run with
  | refl => exact named
  | step prior transition inductionHypothesis =>
    exact transition.wellNamed shortId (unlinked_of_run unlinked prior) inductionHypothesis

/-- A lookup that succeeds shows the receipt in the file of the id that is asked for. -/
theorem report_of_lookup {segment : String} (text : Http.segmentText? segment = some id)
    (answered : (respond key directory (lookupOf segment) world).1.status = 200) :
    ∃ receipt content, isFileId id = true ∧
      (respond key directory (lookupOf segment) world).1 =
        .json 200 (Receipt.Report.toJson ⟨receipt, key.verify receipt⟩) ∧
      world.files.read (pathIn directory (fileName id)) = .ok content ∧
      Receipt.Signed.decoder.decode content = .ok receipt := by
  rw [respond_lookupOf] at answered ⊢
  split at answered
  · cases answered
  next single =>
  rw [if_neg single, Site.fetchReport, text] at *
  simp only [Receipt.Signer.report] at answered ⊢
  cases found : (signer key directory).ledger.fetch world id with
  | error failure =>
    rw [found] at answered
    cases failure <;> cases answered
  | ok kept =>
    rw [found] at answered
    cases kept with
    | none => cases answered
    | some receipt =>
      obtain ⟨digits, content, held, decoded⟩ := Receipt.content_of_fetchFile found
      exact ⟨receipt, content, digits, rfl, held, decoded⟩

/-- A lookup that succeeds shows the receipt in the file of the id that is asked for, with the
verdict on its signature. If the signature fits, every payload that it fits has the id, the time and
the record that are shown, unless two different byte strings have one keyed digest. The id that is
shown is the one that was asked for, if the file of that id was well-named when the service began to
write into the directory, and no file of a receipt was a link. -/
theorem lookup_binds {events : List Event} {later : World} {segment : String}
    (run : Run (Step key directory) start events later)
    (text : Http.segmentText? segment = some id)
    (answered : (respond key directory (lookupOf segment) later).1.status = 200) :
    ∃ (report : Receipt.Report) (content : Bytes),
      (respond key directory (lookupOf segment) later).1 = .json 200 report.toJson ∧
      later.files.read (pathIn directory (fileName id)) = .ok content ∧
      Receipt.Signed.decoder.decode content = .ok report.receipt ∧
      report.verified = key.verify report.receipt ∧
      (report.verified = true → ∀ genuine : Receipt.Payload,
        key.verify ⟨genuine, report.receipt.signature⟩ = true →
          (genuine.id = report.receipt.payload.id ∧
            genuine.timestamp = report.receipt.payload.timestamp ∧
            Json.sortKeys genuine.record = Json.sortKeys report.receipt.payload.record) ∨
          Receipt.Collide key.secret genuine.canonical report.receipt.payload.canonical) ∧
      (Receipt.Unlinked directory start.files → WellNamed directory id start.files →
        report.receipt.payload.id = id) := by
  obtain ⟨receipt, content, digits, told, held, decoded⟩ := report_of_lookup text answered
  refine ⟨⟨receipt, key.verify receipt⟩, content, told, held, decoded, rfl, ?genuine, ?named⟩
  case genuine =>
    intro verified genuine fits
    exact Receipt.Payload.eq_or_collide_of_verify fits verified
  case named =>
    intro unlinked named
    obtain ⟨location, led, -⟩ := FileSystem.read_iff.mp held
    have shortId := Receipt.isShortId_of_locate digits led
    exact wellNamed_of_run shortId unlinked named run later.files content receipt
      (.refl later.files) held decoded

/-- Without files, the file of every id is well-named. -/
theorem wellNamed_empty (directory id : String) : WellNamed directory id .empty := by
  intro later content receipt grows held
  obtain ⟨location, -, there⟩ := FileSystem.read_iff.mp held
  have missing : FileSystem.empty.node? location ≠ some (.file content) := by
    by_cases root : location = [] <;> simp [FileSystem.node?, FileSystem.empty, root]
  rcases grows.nodes location with same | ⟨-, made⟩
  · exact absurd (same ▸ there) missing
  · rw [made] at there
    cases there

/-- A record that was handed in is shown under the id that is asked for. -/
theorem lookup_binds_posted :
    let first := respond ⟨[]⟩ "receipts" (postOf (Text.utf8 "[null]")) Filing.freshProcess
    ∃ (ticket : Receipt.Ticket) (report : Receipt.Report), first.1 = .json 201 ticket.toJson ∧
      (respond ⟨[]⟩ "receipts" (lookupOf ticket.id) first.2).1 = .json 200 report.toJson ∧
      report.receipt.payload.id = ticket.id := by
  intro first
  have taken : Filing.handedIn (postOf (Text.utf8 "[null]")).body = .ok (.array [.null]) := by
    decide +kernel
  have accepted := @accepted_of_vacant ⟨[]⟩ _ _ Filing.freshProcess Receipt.vacant_empty rfl rfl _
    taken
  obtain ⟨receipt, ticket, read, told, named, -, filed⟩ := filed_of_accepted rfl rfl accepted
  have recorded := Except.ok.inj (read.symm.trans (ofText_of_handedIn taken))
  have storable : Receipt.Storable receipt.payload.record := by
    rw [recorded]
    exact .of_isIntegral (.array (by simpa using .null)) (by decide) (by decide) (by decide)
  have answered : (respond ⟨[]⟩ "receipts" (lookupOf ticket.id) first.2).1.status = 200 := by
    rw [named, respond_of_held filed.shortId storable filed.held]
    rfl
  have text : Http.segmentText? ticket.id = some ticket.id := by
    rw [named]
    exact (names_of_isFileId filed.shortId.digits).text
  have run : Run (Step ⟨[]⟩ "receipts") Filing.freshProcess _ first.2 := .step .refl (.asked _)
  obtain ⟨report, -, shown, -, -, -, -, same⟩ := lookup_binds run text answered
  exact ⟨ticket, report, told, shown,
    same (Receipt.unlinked_empty "receipts") (wellNamed_empty "receipts" ticket.id)⟩

/-- A receipt whose signature fits is shown under every id into whose file it is copied. -/
theorem shown_of_copied {id : String} {receipt : Receipt.Signed} (shortId : Receipt.IsShortId id)
    (storable : Receipt.Storable receipt.payload.record) (fits : key.verify receipt = true)
    (copied : world.files.read (pathIn directory (fileName id)) = .ok receipt.toJson.indented) :
    ∃ report : Receipt.Report,
      (respond key directory (lookupOf id) world).1 = .json 200 report.toJson ∧
      report.verified = true ∧ report.receipt = receipt := by
  rw [respond_of_held shortId storable copied]
  exact ⟨_, rfl, fits, rfl⟩

/-- A receipt with the id "aa". -/
def genuine : Receipt.Signed :=
  Receipt.Key.attest ⟨[]⟩ ⟨"aa", 1700000000, .object [("name", .string "example.com")]⟩

/-- A process in which a receipt was copied into the file of the id "bb". -/
def copied (receipt : Receipt.Signed) : World where
  files := ⟨⟨[(["receipts"], .directory),
    (["receipts", "receipt-bb.json"], .file receipt.toJson.indented)]⟩, []⟩
  entropy := Filing.freshProcess.entropy

/-- A receipt with the id "aa" is shown under the id "bb" with a signature that fits. -/
theorem shown_under_another_id :
    ∃ report : Receipt.Report,
      (respond ⟨[]⟩ "receipts" (lookupOf "bb") (copied genuine)).1 = .json 200 report.toJson ∧
      report.verified = true ∧ report.receipt.payload.id = "aa" := by
  have shortId : Receipt.IsShortId "bb" := ⟨by decide, by decide⟩
  have storable : Receipt.Storable genuine.payload.record :=
    .of_isIntegral (.object (List.pairwise_singleton _ _) (by simpa using .string _)) (by decide)
      (by decide) (by decide)
  have held : ∀ receipt, (copied receipt).files.read (pathIn "receipts" (fileName "bb")) =
      .ok receipt.toJson.indented := fun _ => rfl
  obtain ⟨report, told, verified, same⟩ := shown_of_copied shortId storable
    (Filing.verify_attest ⟨[]⟩ _) (held genuine)
  exact ⟨report, told, verified, by rw [same]; rfl⟩

end Service

end GatedResolver.Archive
