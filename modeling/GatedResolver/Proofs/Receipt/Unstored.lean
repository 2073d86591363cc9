import GatedResolver.Proofs.Json.Readability
import GatedResolver.Proofs.Receipt.Archive

/-!
# Lookups of receipts that were never stored

A service keeps its receipts in the files of a directory that can be created, into which nobody else
writes and where no file of a receipt is a link. As long as no receipt gets an id, there is nothing
in the file of that id: `Unstored` holds in every run in which the id is spared (`Unstored.run`).

A lookup of such an id finds nothing as long as its file has a name that a file can have. The file
system refuses longer names and longer paths with a fault of its own, which the lookup does not take
for a missing receipt.
-/

namespace GatedResolver

open FileSystem (nameLimit pathIn pathLimit shown)
open Interleaving (Run)
open Receipt (fetchFile fileName isFileId IsShortId storeFile)

/-- A directory that is there once it is created with those on the way to it, and that has nothing
in the file of an id, and no links in the places of receipts. -/
structure Receipt.Unstored (directory id : String) (files : FileSystem) : Prop where
  created : (files.createDirectories directory).1 = .ok ()
  there : (files.createDirectories directory).2.isDirectory (shown directory) = true
  nothing : ∀ here, (files.createDirectories directory).2.Leads directory here →
    (files.createDirectories directory).2.node? (here ++ [fileName id]) = none
  unlinked : Receipt.Unlinked directory files

namespace Receipt

section Stores

variable {directory id : String} {files prepared : FileSystem}

/-- A directory that is there and has nothing in the file of an id. -/
theorem unstored_of_isDirectory (there : files.isDirectory (shown directory) = true)
    (nothing : ∀ here, files.Leads directory here → files.node? (here ++ [fileName id]) = none)
    (unlinked : Unlinked directory files) : Unstored directory id files := by
  have same := FileSystem.createDirectories_of_isDirectory there
  exact ⟨by rw [same], by rw [same]; exact there, by rw [same]; exact nothing, unlinked⟩

/-- A store of a receipt with another id leaves the file of an id alone. -/
theorem Unstored.store (unstored : Unstored directory id files) {receipt : Signed}
    (shortId : IsShortId receipt.id)
    (other : ∀ location, (storeFile directory files receipt).1 = .ok location → receipt.id ≠ id) :
    Unstored directory id (storeFile directory files receipt).2 := by
  obtain ⟨created, there, nothing, unlinked⟩ := unstored
  have stays := unlinked.store receipt
  have grows := FileSystem.grows_createDirectories files directory
  rcases prepares : files.createDirectories directory with ⟨outcome, prepared⟩
  rw [prepares] at created there nothing grows
  obtain rfl : outcome = .ok () := created
  unfold storeFile at other stays ⊢
  rw [pathFor_ok shortId.digits] at other stays ⊢
  simp only [prepares] at other stays ⊢
  cases done : prepared.write (pathIn directory (fileName receipt.id)) receipt.toJson.indented with
  | error fault =>
    rw [done] at stays
    exact unstored_of_isDirectory there nothing stays
  | ok written =>
    rw [done] at other stays
    have apart : receipt.id ≠ id := other _ rfl
    have keeps := FileSystem.keeps_write done
    obtain ⟨here, -, leads, nodes⟩ := FileSystem.write_pathIn_ok shortId.plain
      ((unlinked _ shortId).grows grows) done
    refine unstored_of_isDirectory (keeps.isDirectory there) (fun others led => ?_) stays
    obtain rfl : others = here := led.unique (keeps.leads leads)
    have differs : fileName id ≠ fileName receipt.id :=
      fun names => apart (fileName_injective names).symm
    rw [nodes, if_neg (FileSystem.location_ne differs)]
    exact nothing _ leads

/-- Where there are no files yet, no receipt is stored under any id. -/
theorem unstored_empty (id : String) : Unstored "receipts" id .empty := by
  have created := createDirectories_receipts
  refine ⟨by rw [created], by rw [created]; exact isDirectory_receipts, ?_,
    unlinked_empty "receipts"⟩
  intro here leads
  rw [created] at leads ⊢
  obtain rfl : here = ["receipts"] := leads.unique leads_receipts
  exact node?_receipts (fileName id)

/-- Whether the file system refuses the file of an id: its path is too long, or the directory is
there and the name of the file is too long. -/
def isRefused (directory id : String) (files : FileSystem) : Bool :=
  pathLimit ≤ (pathIn directory (fileName id)).utf8ByteSize ||
    (nameLimit < (fileName id).utf8ByteSize && files.isDirectory (shown directory))

/-- The path of a directory is no longer than that of a file in it. -/
theorem utf8ByteSize_le_pathIn (directory name : String) :
    directory.utf8ByteSize ≤ (pathIn directory name).utf8ByteSize := by
  unfold pathIn
  split
  · next empty =>
    obtain rfl : directory = "" := by simpa using empty
    exact Nat.zero_le _
  · split
    · rw [String.utf8ByteSize_append]
      exact Nat.le_add_right ..
    · rw [String.utf8ByteSize_append, String.utf8ByteSize_append]
      omega

section Fetches

variable (unstored : Unstored directory id files) (digits : isFileId id = true)
include unstored digits

/-- What the file of an id is refused for is that it is too long. -/
theorem Unstored.read_of_refused (refused : isRefused directory id files = true) :
    files.read (pathIn directory (fileName id)) = .error .nameTooLong := by
  have noNul := noNul_fileName digits
  obtain ⟨made, led⟩ := FileSystem.leads_of_isDirectory unstored.there
  by_cases long : pathLimit ≤ (pathIn directory (fileName id)).utf8ByteSize
  · have clean := (FileSystem.noNul_pathIn_iff noNul).mpr led.noNul
    exact FileSystem.read_of_longPath clean long
  · simp only [isRefused, long, decide_false, Bool.false_or, Bool.and_eq_true,
      decide_eq_true_eq] at refused
    obtain ⟨here, leads⟩ := FileSystem.leads_of_isDirectory refused.2
    exact FileSystem.read_of_longName noNul (noSlash_fileName digits) (step_fileName id)
      (Nat.lt_of_not_le long) leads refused.1

/-- What is not refused is not found: there is nothing in the file, or no directory yet. -/
theorem Unstored.read_of_allowed (allowed : isRefused directory id files = false) :
    files.read (pathIn directory (fileName id)) = .error .notFound := by
  simp only [isRefused, Bool.or_eq_false_iff, Bool.and_eq_false_iff, decide_eq_false_iff_not]
    at allowed
  obtain ⟨short, early⟩ := allowed
  have room := Nat.lt_of_not_le short
  have grows := FileSystem.grows_createDirectories files directory
  obtain ⟨here, leads⟩ := FileSystem.leads_of_isDirectory unstored.there
  rcases early with named | noDirectory
  · have plain : FileSystem.IsPlain (fileName id) :=
      ⟨noSlash_fileName digits, noNul_fileName digits, step_fileName id, Nat.le_of_not_lt named⟩
    have nothing := unstored.nothing here leads
    have led := (FileSystem.locate_pathIn_iff plain room fun there others => by
      rw [others.unique leads, FileSystem.link?, nothing]).mpr ⟨here, leads, rfl⟩
    exact grows.read_notFound led nothing
  · exact grows.read_of_noDirectory (noNul_fileName digits) (noSlash_fileName digits)
      (step_fileName id) room leads
      (Nat.lt_of_le_of_lt (utf8ByteSize_le_pathIn directory _) room) noDirectory

/-- A receipt that was never stored is not found, unless its file is refused. -/
theorem Unstored.fetch : fetchFile directory files id =
    if isRefused directory id files then
      .error (.receiptStorage ("cannot read " ++ pathIn directory (fileName id) ++ ": " ++
        FileFault.nameTooLong.message))
    else .ok none := by
  rw [fetchFile_eq digits]
  cases refused : isRefused directory id files with
  | true =>
    rw [unstored.read_of_refused digits refused]
    rfl
  | false =>
    rw [unstored.read_of_allowed digits refused]
    rfl

end Fetches

end Stores

end Receipt

namespace Archive

open Http (Request)

section Runs

variable {key : Receipt.Key} {directory id : String} {start world next later : World}
  {events : List Event}

/-- A step in which no receipt gets an id. -/
structure Spares (key : Receipt.Key) (directory id : String) (world : World) (event : Event)
    (next : World) : Prop where
  step : Step key directory world event next
  other : ∀ request, event = .asked request → ∀ ticket : Receipt.Ticket,
    (respond key directory request world).1 = .json 201 ticket.toJson → ticket.id ≠ id

/-- There is nothing in the file of an id after a step in which no receipt gets the id. -/
theorem Spares.unstored {event : Event} (spares : Spares key directory id world event next)
    (unstored : Receipt.Unstored directory id world.files) :
    Receipt.Unstored directory id next.files := by
  obtain ⟨step, other⟩ := spares
  cases step with
  | passed aside =>
    rw [aside.files]
    exact unstored
  | asked request =>
    rcases respond_cases key directory request world with same | ⟨record, same, handsOut⟩
    · rw [same]
      exact unstored
    · have filed : (respond key directory request world).2.files =
          (Receipt.storeFile directory world.files (issue key world record)).2 := by
        rw [same, submit_eq]
      have shortId : Receipt.IsShortId (issue key world record).id := Receipt.isShortId_idOf _
      rw [filed]
      refine unstored.store shortId fun location stored => ?_
      have kept : ((signer key directory).submit record world).1 =
          .ok ⟨(issue key world record).id, location⟩ := by
        rw [submit_eq, stored]
        rfl
      have apart := other request rfl _ (handsOut _ kept)
      exact apart

/-- There is nothing in the file of an id after a run in which no receipt gets the id. -/
theorem unstored_of_run (unstored : Receipt.Unstored directory id start.files)
    (run : Run (Spares key directory id) start events later) :
    Receipt.Unstored directory id later.files := by
  induction run with
  | refl => exact unstored
  | step prior transition inductionHypothesis => exact transition.unstored inductionHypothesis

/-- What is told about an id that no receipt has. -/
theorem report_of_unstored (unstored : Receipt.Unstored directory id world.files) :
    Site.serveReport ((signer key directory).report world id) =
      if isFileId id then
        if Receipt.isRefused directory id world.files then
          .ofFailure (.receiptStorage ("cannot read " ++ pathIn directory (fileName id) ++ ": " ++
            FileFault.nameTooLong.message))
        else .notFound "Not found"
      else .ofFailure (.invalidRequest ("invalid receipt id: " ++ id)) := by
  have fetched : (signer key directory).ledger.fetch world id =
      fetchFile directory world.files id := rfl
  rw [Receipt.Signer.report, fetched]
  by_cases digits : isFileId id = true
  · rw [unstored.fetch digits, if_pos digits]
    split <;> rfl
  · have refused : fetchFile directory world.files id =
        .error (.invalidRequest ("invalid receipt id: " ++ id)) := by
      rw [fetchFile, Receipt.pathFor, if_neg digits]
      rfl
    rw [refused, if_neg digits]
    rfl

/-- A receipt that was never stored is not found: a lookup of its id says so, for every text that a
segment can stand for, and changes nothing. A text that is no id of a file is told to be none, and
the empty text has no route. The only ids that are told otherwise are those whose file the file
system refuses, because its path is too long, or because its name is too long for the directory that
is there. -/
theorem lookup_of_unstored (unstored : Receipt.Unstored directory id start.files)
    (run : Run (Spares key directory id) start events later) :
    (id.isEmpty = true →
      respond key directory (lookupOf id) later = (Site.noRoute ("/receipt/" ++ id), later)) ∧
    (id.isEmpty = false → ∃ segment, Http.Names segment id) ∧
    ∀ segment, Http.Names segment id →
      ∃ response, respond key directory (lookupOf segment) later = (response, later) ∧
        (isFileId id = false → response.status = 400 ∧
          response = .ofFailure (.invalidRequest ("invalid receipt id: " ++ id))) ∧
        (isFileId id = true → Receipt.isRefused directory id later.files = false →
          response.status = 404 ∧ response = .notFound "Not found") ∧
        (isFileId id = true → Receipt.isRefused directory id later.files = true →
          response.status = 500 ∧
          response = .ofFailure (.receiptStorage
            ("cannot read " ++ pathIn directory (fileName id) ++ ": " ++
              FileFault.nameTooLong.message))) := by
  have still := unstored_of_run unstored run
  refine ⟨fun empty => ?_, fun present => ⟨_, Http.names_escapedSegment present⟩,
    fun segment names => ?_⟩
  · rw [respond_lookupOf, empty, Bool.true_or, if_pos rfl]
  refine ⟨_, respond_lookupOf_names names, ?_⟩
  rw [report_of_unstored still]
  refine ⟨fun other => ?_, fun digits allowed => ?_, fun digits refused => ?_⟩
  · rw [other]
    exact ⟨rfl, rfl⟩
  · rw [digits, allowed]
    exact ⟨rfl, rfl⟩
  · rw [digits, refused]
    exact ⟨rfl, rfl⟩

/-- The id on a ticket is one that was drawn. -/
theorem issued_of_ticket {request : Request} {ticket : Receipt.Ticket}
    (posts : request.method = .post) (path : request.target.path = "/receipt")
    (told : (respond key directory request world).1 = .json 201 ticket.toJson) :
    ∃ entropy, ticket.id = Receipt.idOf entropy := by
  have accepted : (respond key directory request world).1.status = 201 := by
    rw [told]
    rfl
  obtain ⟨receipt, other, -, same, named, -, filed⟩ := filed_of_accepted posts path accepted
  obtain ⟨number, -, issued⟩ := filed.issued
  have responses := told.symm.trans same
  have bodies := congrArg Http.Response.body responses
  have values : ticket.toJson = other.toJson := Json.compact_injective bodies
  simp only [Receipt.Ticket.toJson, Json.Value.object.injEq, List.cons.injEq, Prod.mk.injEq,
    Json.Value.string.injEq, true_and, and_true] at values
  exact ⟨_, values.1.trans (named.trans issued)⟩

/-- A record that is handed in spares an id that has not the length of ids that are drawn. -/
theorem spares_post (body : Bytes) (different : id.length ≠ 36) :
    Spares key directory id world (.asked (postOf body))
      (respond key directory (postOf body) world).2 := by
  refine ⟨.asked _, fun request same ticket told => ?_⟩
  cases same
  obtain ⟨entropy, issued⟩ := issued_of_ticket rfl rfl told
  rintro rfl
  rw [issued, Receipt.length_idOf] at different
  exact different rfl

/-- After another receipt was stored, nothing is found under a short id, and a text that is no id is
told to be none. -/
theorem lookup_of_unstored_posted :
    let first := respond ⟨[]⟩ "receipts" (postOf (Text.utf8 "[null]")) Filing.freshProcess
    Receipt.Unstored "receipts" "ab" Filing.freshProcess.files ∧
      respond ⟨[]⟩ "receipts" (lookupOf "ab") first.2 = (.notFound "Not found", first.2) ∧
      respond ⟨[]⟩ "receipts" (lookupOf "%C3%A9") first.2 =
        (.ofFailure (.invalidRequest "invalid receipt id: é"), first.2) := by
  intro first
  have run (id : String) (different : id.length ≠ 36) :
      Run (Spares ⟨[]⟩ "receipts" id) Filing.freshProcess [.asked (postOf (Text.utf8 "[null]"))]
        first.2 := .step .refl (spares_post _ different)
  have digits : isFileId "ab" = true := by decide
  have other : isFileId "é" = false := by decide
  have allowed : Receipt.isRefused "receipts" "ab" first.2.files = false := by
    have room : decide (pathLimit ≤ (pathIn "receipts" (fileName "ab")).utf8ByteSize) = false := by
      decide
    have short : decide (nameLimit < (fileName "ab").utf8ByteSize) = false := by decide
    rw [Receipt.isRefused, room, short, Bool.false_and, Bool.or_false]
  have segment : Http.Names "%C3%A9" "é" := ⟨by decide, by decide, by decide +kernel⟩
  refine ⟨Receipt.unstored_empty "ab", ?_, ?_⟩
  · obtain ⟨-, -, lookups⟩ :=
      lookup_of_unstored (Receipt.unstored_empty "ab") (run "ab" (by decide))
    obtain ⟨response, answered, -, missing, -⟩ := lookups "ab" (names_of_isFileId digits)
    rw [answered, (missing digits allowed).2]
  · obtain ⟨-, -, lookups⟩ := lookup_of_unstored (Receipt.unstored_empty "é") (run "é" (by decide))
    obtain ⟨response, answered, invalid, -⟩ := lookups "%C3%A9" segment
    rw [answered, (invalid other).2]
    rfl

/-- The directory of a receipt that is filed is there. -/
theorem Filed.isDirectory {receipt : Receipt.Signed} (filed : Filed directory receipt world) :
    world.files.isDirectory (shown directory) = true := by
  obtain ⟨location, led, -⟩ := FileSystem.read_iff.mp filed.held
  have room := FileSystem.room_of_locate led
  have plain := filed.shortId.plain
  obtain ⟨here, -, -, leads, -⟩ := FileSystem.walk_of_locate plain.noNul plain.noSlash led
  exact FileSystem.isDirectory_of_leads leads
    (Nat.lt_of_le_of_lt (Receipt.utf8ByteSize_le_pathIn directory _) room)

/-- Once a receipt is filed, a lookup of an id that is too long for the name of a file fails. -/
theorem Filed.lookup_refused {receipt : Receipt.Signed} (filed : Filed directory receipt world)
    (unstored : Receipt.Unstored directory id world.files) (digits : isFileId id = true)
    (long : nameLimit < (fileName id).utf8ByteSize) :
    (respond key directory (lookupOf id) world).1.status = 500 := by
  have refused : Receipt.isRefused directory id world.files = true := by
    rw [Receipt.isRefused, filed.isDirectory, Bool.and_true, decide_eq_true long, Bool.or_true]
  rw [respond_lookupOf_names (names_of_isFileId digits), report_of_unstored unstored, digits, refused]
  rfl

/-- An id that is too long for the name of a file. -/
def longId : String :=
  String.ofList (List.replicate 243 'a')

/-- The id has one character more than fits into the name of a file. -/
theorem length_longId : longId.length = 243 :=
  String.length_ofList.trans List.length_replicate

/-- The id consists of digits. -/
theorem isFileId_longId : isFileId longId = true := by
  refine Receipt.isFileId_iff.mpr ⟨?_, fun character belongs => ?_⟩
  · rw [← Bool.not_eq_true, String.isEmpty_iff]
    intro empty
    have length := congrArg String.length empty
    rw [length_longId] at length
    exact absurd length (by decide)
  · unfold longId at belongs
    rw [String.toList_ofList] at belongs
    rw [List.eq_of_mem_replicate belongs]
    decide

/-- After one receipt was stored, a lookup of an id that no receipt got is told that the storage of
receipts failed. -/
theorem failed_for_longId :
    let first := respond ⟨[]⟩ "receipts" (postOf (Text.utf8 "[null]")) Filing.freshProcess
    first.1.status = 201 ∧ isFileId longId = true ∧
      (∀ ticket : Receipt.Ticket, first.1 = .json 201 ticket.toJson → ticket.id ≠ longId) ∧
      (respond ⟨[]⟩ "receipts" (lookupOf longId) first.2).1.status = 500 := by
  -- The request is written out: whether two results of it are equal must not be found by running it.
  dsimp only
  have taken : Filing.handedIn (postOf (Text.utf8 "[null]")).body = .ok (.array [.null]) := by
    decide +kernel
  have accepted := @accepted_of_vacant ⟨[]⟩ _ _ Filing.freshProcess Receipt.vacant_empty rfl rfl _
    taken
  have digits := isFileId_longId
  have different : longId.length ≠ 36 := by
    rw [length_longId]
    decide
  have spares := @spares_post ⟨[]⟩ "receipts" longId Filing.freshProcess (Text.utf8 "[null]") different
  have unstored := spares.unstored (Receipt.unstored_empty longId)
  obtain ⟨receipt, ticket, -, -, -, -, filed⟩ := filed_of_accepted rfl rfl accepted
  have long : nameLimit < (fileName longId).utf8ByteSize := by
    rw [Receipt.utf8ByteSize_fileName digits, length_longId]
    decide
  exact ⟨accepted, digits, spares.other _ rfl, filed.lookup_refused unstored digits long⟩

end Runs

end Archive

end GatedResolver
