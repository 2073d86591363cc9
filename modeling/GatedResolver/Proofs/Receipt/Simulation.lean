import GatedResolver.Proofs.Receipt.Files
import GatedResolver.Receipt.Signer

/-!
# The ledger in files does what the ledger in memory does

The files of a directory mirror a ledger in memory if each receipt in memory is written in its
file, and there is no file for any other id. A store keeps it that way, and what is fetched is the
same on both sides. Before the first store the directory may be missing; then nothing is found, in
memory as in files.
-/

namespace GatedResolver.Receipt

open FileSystem (Leads nameLimit pathIn pathLimit shown)

/-- What is asked of a ledger. -/
inductive Demand where
  /-- Keep a receipt. -/
  | store (receipt : Signed)
  /-- Look up an id. -/
  | fetch (id : String)

/-- What a ledger tells. Where it keeps a receipt is its own affair. -/
inductive Reply where
  | stored (kept : Except Failure Unit)
  | fetched (found : Except Failure (Option Signed))

/-- What a ledger does with a demand. -/
def Ledger.tell {State : Type} (ledger : Ledger State) (state : State) : Demand → Reply × State
  | .store receipt =>
    let (location, stored) := ledger.store state receipt
    (.stored (location.map fun _ => ()), stored)
  | .fetch id => (.fetched (ledger.fetch state id), state)

/-- What a ledger does with demands, one after the other. -/
def Ledger.tellAll {State : Type} (ledger : Ledger State) (state : State) :
    List Demand → List Reply × State
  | [] => ([], state)
  | demand :: rest =>
    let (reply, next) := ledger.tell state demand
    let (replies, last) := ledger.tellAll next rest
    (reply :: replies, last)

/-- A demand about an id that is short enough for a file and, if it is to keep a receipt, one with a
storable record. -/
def Demand.Proper : Demand → Prop
  | .store receipt => IsShortId receipt.id ∧ Storable receipt.payload.record
  | .fetch id => IsShortId id

/-- A directory that receipts can be kept in and that has none, and no links in their places: it is
there once it is created with those on the way to it, and there is room for the paths of
receipts. -/
structure Vacant (directory : String) (files : FileSystem) : Prop where
  created : (files.createDirectories directory).1 = .ok ()
  there : (files.createDirectories directory).2.isDirectory (shown directory) = true
  room : directory.utf8ByteSize + nameLimit + 1 < pathLimit
  nothing : ∀ id, IsShortId id →
    fetchFile directory (files.createDirectories directory).2 id = .ok none
  unlinked : Unlinked directory files

/-- The files of a directory at a location are those of the receipts in memory. -/
structure Mirrors (directory : String) (here : Location) (files : FileSystem) (memory : Memory) :
    Prop where
  there : files.isDirectory (shown directory) = true
  leads : files.Leads directory here
  room : directory.utf8ByteSize + nameLimit + 1 < pathLimit
  holds : ∀ id, IsShortId id → files.node? (here ++ [fileName id]) =
    (memory.find? id).map fun receipt => .file receipt.toJson.indented
  storable : ∀ id receipt, memory.find? id = some receipt → Storable receipt.payload.record

/-- The files of a directory do for the receipts in memory, be it that there are none yet. -/
def Simulates (directory : String) (files : FileSystem) (memory : Memory) : Prop :=
  (Vacant directory files ∧ memory = .empty) ∨ ∃ here, Mirrors directory here files memory

section Steps

variable {directory : String} {here : Location} {files prepared : FileSystem} {memory : Memory}

/-- The path of an id leads to its file, if that is no link. -/
theorem locate_of_leads {id : String} (leads : files.Leads directory here) (shortId : IsShortId id)
    (room : directory.utf8ByteSize + nameLimit + 1 < pathLimit)
    (unlinked : files.link? (here ++ [fileName id]) = none) :
    files.locate (pathIn directory (fileName id)) = .ok (here ++ [fileName id]) :=
  (FileSystem.locate_pathIn_iff shortId.plain (room_of_isShortId shortId room)
    fun _ others => leads.unique others ▸ unlinked).mpr ⟨here, leads, rfl⟩

/-- What is read at the path of an id is what its location holds, if that is no link. -/
theorem read_of_leads {id : String} (leads : files.Leads directory here) (shortId : IsShortId id)
    (room : directory.utf8ByteSize + nameLimit + 1 < pathLimit)
    (unlinked : files.link? (here ++ [fileName id]) = none) :
    files.read (pathIn directory (fileName id)) =
      match files.node? (here ++ [fileName id]) with
      | some (.file content) => .ok content
      | some .directory => .error .isDirectory
      | some (.link _) => .error .tooManyLinks
      | none => .error .notFound := by
  rw [FileSystem.read, locate_of_leads leads shortId room unlinked]
  rfl

/-- The files that mirror a memory are no links. -/
theorem Mirrors.unlinked (mirrors : Mirrors directory here files memory) {id : String}
    (shortId : IsShortId id) : files.link? (here ++ [fileName id]) = none := by
  rw [FileSystem.link?, mirrors.holds id shortId]
  cases memory.find? id <;> rfl

/-- What is fetched from files that mirror a memory is what is in memory. -/
theorem Mirrors.fetch (mirrors : Mirrors directory here files memory) {id : String}
    (shortId : IsShortId id) : fetchFile directory files id = .ok (memory.find? id) := by
  have held := mirrors.holds id shortId
  have read := read_of_leads mirrors.leads shortId mirrors.room (mirrors.unlinked shortId)
  rw [held] at read
  cases found : memory.find? id with
  | none =>
    rw [found] at read
    rw [fetchFile_eq shortId.digits, read]
    rfl
  | some receipt =>
    rw [found] at read
    exact fetchFile_of_read (mirrors.storable id receipt found) shortId.digits read

/-- A receipt is stored into files that mirror a memory as it is stored into memory. -/
theorem Mirrors.store (mirrors : Mirrors directory here prepared memory)
    (created : files.createDirectories directory = (.ok (), prepared)) {receipt : Signed}
    (shortId : IsShortId receipt.id) (storable : Storable receipt.payload.record) :
    ∃ location written, storeFile directory files receipt = (.ok location, written) ∧
      Mirrors directory here written (memory.set receipt.id receipt) := by
  have noDirectory : prepared.node? (here ++ [fileName receipt.id]) ≠ some .directory := by
    rw [mirrors.holds receipt.id shortId]
    cases memory.find? receipt.id <;> simp
  obtain ⟨written, done, stored⟩ :=
    storeFile_of_leads created mirrors.leads shortId mirrors.room (mirrors.unlinked shortId)
      noDirectory
  refine ⟨pathIn directory (fileName receipt.id), written, stored, ?_⟩
  have keeps := FileSystem.keeps_write done
  obtain ⟨location, led, nodes⟩ :=
    FileSystem.write_located shortId.plain.noSlash shortId.plain.step.1 done
  rw [locate_of_leads mirrors.leads shortId mirrors.room (mirrors.unlinked shortId)] at led
  obtain rfl : here ++ [fileName receipt.id] = location := Except.ok.inj led
  refine ⟨keeps.isDirectory mirrors.there, keeps.leads mirrors.leads, mirrors.room, ?_, ?_⟩
  · intro id otherShort
    rw [nodes, Table.find?_set]
    by_cases same : id = receipt.id
    · rw [same, if_pos rfl, if_pos rfl, Option.map_some]
    · have apart : fileName id ≠ fileName receipt.id := fun names => same (fileName_injective names)
      rw [if_neg same, if_neg (FileSystem.location_ne apart), mirrors.holds id otherShort]
  · intro id found kept
    rw [Table.find?_set] at kept
    split at kept
    · rw [← Option.some.inj kept]
      exact storable
    · exact mirrors.storable id found kept

/-- The files of a directory that has just been created mirror the memory that is empty. -/
theorem Vacant.mirrors (vacant : Vacant directory files) :
    ∃ here, Mirrors directory here (files.createDirectories directory).2 .empty := by
  obtain ⟨here, leads⟩ := FileSystem.leads_of_isDirectory vacant.there
  have grows := FileSystem.grows_createDirectories files directory
  refine ⟨here, vacant.there, leads, vacant.room, ?_, ?_⟩
  · intro id shortId
    have unlinked := ((vacant.unlinked id shortId).grows grows).link? here leads
    have nothing := vacant.nothing id shortId
    rw [fetchFile_eq shortId.digits, read_of_leads leads shortId vacant.room unlinked] at nothing
    cases held : (files.createDirectories directory).2.node? (here ++ [fileName id]) with
    | none => rfl
    | some node =>
      rw [held] at nothing
      cases node with
      | directory => cases nothing
      | link target => cases nothing
      | file content =>
        simp only at nothing
        split at nothing <;> cases nothing
  · intro id receipt kept
    cases kept

/-- Nothing is fetched before the directory is created. -/
theorem Vacant.fetch (vacant : Vacant directory files) {id : String} (shortId : IsShortId id) :
    fetchFile directory files id = .ok none := by
  obtain ⟨here, mirrors⟩ := vacant.mirrors
  have led := locate_of_leads mirrors.leads shortId mirrors.room (mirrors.unlinked shortId)
  have absent := (FileSystem.grows_createDirectories files directory).read_notFound led
    (mirrors.holds id shortId)
  rw [fetchFile_eq shortId.digits, absent]

/-- What is fetched from files that do for the receipts in memory is what is in memory. -/
theorem Simulates.fetch (simulates : Simulates directory files memory) {id : String}
    (shortId : IsShortId id) : fetchFile directory files id = .ok (memory.find? id) := by
  rcases simulates with ⟨vacant, rfl⟩ | ⟨here, mirrors⟩
  · exact vacant.fetch shortId
  · exact mirrors.fetch shortId

/-- A demand is met in files as in memory, and the files go on to do for the receipts in memory. -/
theorem Simulates.tell (simulates : Simulates directory files memory) {demand : Demand}
    (proper : demand.Proper) :
    ((fileLedger directory).tell files demand).1 = (memoryLedger.tell memory demand).1 ∧
      Simulates directory ((fileLedger directory).tell files demand).2
        (memoryLedger.tell memory demand).2 := by
  cases demand with
  | fetch id => exact ⟨congrArg Reply.fetched (simulates.fetch proper), simulates⟩
  | store receipt =>
    obtain ⟨shortId, storable⟩ := proper
    obtain ⟨here, prepared, created, mirrors⟩ : ∃ here prepared,
        files.createDirectories directory = (.ok (), prepared) ∧
          Mirrors directory here prepared memory := by
      rcases simulates with ⟨vacant, rfl⟩ | ⟨here, mirrors⟩
      · obtain ⟨here, mirrors⟩ := vacant.mirrors
        exact ⟨here, _, Prod.ext vacant.created rfl, mirrors⟩
      · exact ⟨here, files, FileSystem.createDirectories_of_isDirectory mirrors.there, mirrors⟩
    obtain ⟨location, written, stored, mirrors⟩ := mirrors.store created shortId storable
    simp only [Ledger.tell, fileLedger, memoryLedger, stored]
    exact ⟨rfl, .inr ⟨here, mirrors⟩⟩

/-- All demands are met in files as in memory. -/
theorem Simulates.tellAll {demands : List Demand} (proper : ∀ demand ∈ demands, demand.Proper)
    (simulates : Simulates directory files memory) :
    ((fileLedger directory).tellAll files demands).1 = (memoryLedger.tellAll memory demands).1 ∧
      Simulates directory ((fileLedger directory).tellAll files demands).2
        (memoryLedger.tellAll memory demands).2 := by
  induction demands generalizing files memory with
  | nil => exact ⟨rfl, simulates⟩
  | cons demand rest inductionHypothesis =>
    obtain ⟨reply, next⟩ := simulates.tell (proper demand (.head rest))
    obtain ⟨replies, last⟩ :=
      inductionHypothesis (fun later member => proper later (.tail demand member)) next
    exact ⟨congrArg₂ List.cons reply replies, last⟩

end Steps

/-- A ledger in the files of a directory without receipts, which nobody else writes into, meets all
proper demands as a ledger in memory does that is empty at first. Afterwards both fetch the same
under every id, for which every signer gives the same verdict, and one more receipt changes what is
fetched under its own id and under no other one. -/
theorem fileLedger_simulates {directory : String} {files : FileSystem}
    (vacant : Vacant directory files) {demands : List Demand}
    (proper : ∀ demand ∈ demands, demand.Proper) :
    let (replies, written) := (fileLedger directory).tellAll files demands
    let (answers, memory) := memoryLedger.tellAll .empty demands
    replies = answers ∧
      (∀ id, IsShortId id →
        (fileLedger directory).fetch written id = memoryLedger.fetch memory id) ∧
      (∀ key fileStamp memoryStamp id, IsShortId id →
        Signer.report ⟨key, fileLedger directory, fileStamp⟩ written id =
          Signer.report ⟨key, memoryLedger, memoryStamp⟩ memory id) ∧
      ∀ receipt, (Demand.store receipt).Proper →
        ∃ location later, (fileLedger directory).store written receipt = (.ok location, later) ∧
          ∀ id, IsShortId id → (fileLedger directory).fetch later id =
            if id = receipt.id then .ok (some receipt)
            else (fileLedger directory).fetch written id := by
  have all := Simulates.tellAll proper (.inl ⟨vacant, rfl⟩)
  generalize (fileLedger directory).tellAll files demands = kept at all ⊢
  generalize memoryLedger.tellAll .empty demands = held at all ⊢
  obtain ⟨replies, written⟩ := kept
  obtain ⟨answers, memory⟩ := held
  obtain ⟨same, simulates⟩ := all
  refine ⟨same, fun id shortId => simulates.fetch shortId, ?reports, ?stores⟩
  case reports =>
    intro key fileStamp memoryStamp id shortId
    have fetched : (fileLedger directory).fetch written id = memoryLedger.fetch memory id :=
      simulates.fetch shortId
    rw [Signer.report, Signer.report, fetched]
  case stores =>
    intro receipt shortAndStorable
    obtain ⟨reply, next⟩ := simulates.tell shortAndStorable
    cases stored : (fileLedger directory).store written receipt with
    | mk location later =>
      simp only [Ledger.tell, stored] at reply next
      cases location with
      | error failure => cases reply
      | ok path =>
        refine ⟨path, later, rfl, ?_⟩
        intro id shortId
        have now : (fileLedger directory).fetch later id = _ := next.fetch shortId
        have before : (fileLedger directory).fetch written id = _ := simulates.fetch shortId
        rw [now, before]
        exact fetch_store_memoryLedger memory receipt id

/-- A file system with an empty directory of receipts. -/
def withReceipts : FileSystem :=
  ⟨⟨[(["receipts"], .directory)]⟩, []⟩

/-- Where there are no files yet, a directory of receipts can be created. -/
theorem createDirectories_receipts :
    FileSystem.empty.createDirectories "receipts" = (.ok (), withReceipts) := by
  decide +kernel

/-- The new directory is there. -/
theorem isDirectory_receipts : withReceipts.isDirectory (shown "receipts") = true := by
  decide +kernel

/-- The paths of what is in the new directory go through it. -/
theorem leads_receipts : withReceipts.Leads "receipts" ["receipts"] :=
  ⟨by decide, by decide +kernel, by decide⟩

/-- There is nothing in the new directory. -/
theorem node?_receipts (name : String) : withReceipts.node? (["receipts"] ++ [name]) = none := by
  simp [withReceipts, FileSystem.node?, Table.find?, Table.valueIn?]

/-- Where there are no files yet, there are no links. -/
theorem unlinked_empty (directory : String) : Unlinked directory .empty := by
  refine fun id _ => FileSystem.unlinked_of_noLinks fun location => ?_
  by_cases root : location = [] <;> simp [FileSystem.link?, FileSystem.node?, FileSystem.empty, root]

/-- The files of a process that has none yet have room for a directory of receipts. -/
theorem vacant_empty : Vacant "receipts" .empty := by
  have created := createDirectories_receipts
  refine ⟨by rw [created], by rw [created]; exact isDirectory_receipts, by decide, ?_,
    unlinked_empty "receipts"⟩
  intro id shortId
  have unlinked : withReceipts.link? (["receipts"] ++ [fileName id]) = none := by
    rw [FileSystem.link?, node?_receipts]
  rw [created, fetchFile_eq shortId.digits,
    read_of_leads leads_receipts shortId (by decide) unlinked, node?_receipts]

/-- A receipt under the id "ab". -/
def sample (record : Json.Value) : Signed :=
  ⟨⟨"ab", 1, record⟩, ""⟩

/-- A receipt that is stored twice, with a lookup in between, is found as it was stored last. -/
theorem fileLedger_simulates_storedTwice :
    ((fileLedger "receipts").tellAll .empty
      [.store (sample .null), .fetch "ab", .store (sample (.array [.null])), .fetch "ab"]).1 =
      [.stored (.ok ()), .fetched (.ok (some (sample .null))), .stored (.ok ()),
        .fetched (.ok (some (sample (.array [.null]))))] := by
  have shortId : IsShortId "ab" := ⟨by decide, by decide⟩
  have empty : Storable .null := .of_isIntegral .null (by decide) (by decide) (by decide)
  have nested : Storable (.array [.null]) :=
    .of_isIntegral (.array (by simpa using .null)) (by decide) (by decide) (by decide)
  refine (fileLedger_simulates vacant_empty ?_).1.trans rfl
  simp only [List.forall_mem_cons]
  exact ⟨⟨shortId, empty⟩, shortId, ⟨shortId, nested⟩, shortId, by simp⟩

/-- A directory without receipts takes a receipt with a record that begins with the key of
enclosures, and does not give it back. -/
theorem Vacant.loses_trap {directory : String} {files : FileSystem} {receipt : Signed}
    (vacant : Vacant directory files) (shortId : IsShortId receipt.id)
    (trapped : receipt.payload.record = trap) :
    ((fileLedger directory).tellAll files [.store receipt, .fetch receipt.id]).1 =
      [.stored (.ok ()), .fetched (.error (.serialization "trailing comma"))] := by
  obtain ⟨here, mirrors⟩ := vacant.mirrors
  have noDirectory := mirrors.holds receipt.id shortId
  obtain ⟨written, done, stored⟩ := storeFile_of_leads (Prod.ext vacant.created rfl) mirrors.leads
    shortId vacant.room (mirrors.unlinked shortId) (by simp [noDirectory])
  have lost := fetchFile_of_read_trap trapped shortId.digits
    (FileSystem.read_written shortId.plain done)
  simp only [Ledger.tellAll, Ledger.tell, fileLedger, stored, lost]
  rfl

/-- A receipt is found in memory and not in files, although its record has no numbers and is not
nested. -/
theorem fileLedger_loses_trap :
    IsShortId (sample trap).id ∧ trap.Canonical ∧ trap.isIntegral = true ∧ trap.depth ≤ 125 ∧
      ((fileLedger "receipts").tellAll .empty [.store (sample trap), .fetch "ab"]).1 =
        [.stored (.ok ()), .fetched (.error (.serialization "trailing comma"))] ∧
      (memoryLedger.tellAll .empty [.store (sample trap), .fetch "ab"]).1 =
        [.stored (.ok ()), .fetched (.ok (some (sample trap)))] := by
  have shortId : IsShortId (sample trap).id := ⟨by decide, by decide⟩
  exact ⟨shortId, canonical_trap, by decide, by decide, vacant_empty.loses_trap shortId rfl, rfl⟩

end GatedResolver.Receipt
