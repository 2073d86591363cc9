import GatedResolver.Cache
import GatedResolver.Receipt.Signer
import GatedResolver.Warning

/-!
# What components share

The components of one process work on one state: the files, the cache, the receipts in
memory, the time and the random bits. Work on a part of the state is work on the whole that
leaves the rest alone.
-/

namespace GatedResolver

/-- The state that the components of a process share. -/
structure World where
  files : FileSystem
  cache : Cache := .empty
  memory : Receipt.Memory := .empty
  /-- The time in seconds. -/
  clock : Int64 := 0
  /-- The random bits that each coming receipt gets, by the number of the receipt. -/
  entropy : Nat → Receipt.Entropy
  /-- How many receipts got their random bits. -/
  drawn : Nat := 0
  /-- What the operator was warned about, the latest first. -/
  warnings : List Warning := []

namespace World

variable {α : Type}

/-- Work on the files. -/
def onFiles (work : StateM FileSystem α) : StateM World α := fun world =>
  let (result, files) := work world.files
  (result, { world with files := files })

/-- Work on the cache. -/
def onCache (work : StateM Cache α) : StateM World α := fun world =>
  let (result, cache) := work world.cache
  (result, { world with cache := cache })

/-- Warn the operator. -/
def warn (warning : Warning) : StateM World Unit := fun world =>
  ((), { world with warnings := warning :: world.warnings })

/-- The time. -/
def now : StateM World Int64 := fun world =>
  (world.clock, world)

/-- The stamp of the next receipt. -/
def stamp (world : World) : Receipt.Stamp × World :=
  (⟨world.entropy world.drawn, world.clock⟩, { world with drawn := world.drawn + 1 })

/-- The ledger in the memory of a world. -/
def memoryLedger : Receipt.Ledger World where
  store world receipt :=
    let (location, memory) := Receipt.memoryLedger.store world.memory receipt
    (location, { world with memory := memory })
  fetch world id := Receipt.memoryLedger.fetch world.memory id

/-- The ledger in the files of a directory of a world. -/
def fileLedger (directory : String) : Receipt.Ledger World where
  store world receipt :=
    let (location, files) := (Receipt.fileLedger directory).store world.files receipt
    (location, { world with files := files })
  fetch world id := (Receipt.fileLedger directory).fetch world.files id

/-- The ledger for a directory, which is in memory if no directory is given. -/
def ledger (directory : String) : Receipt.Ledger World :=
  if directory.isEmpty then memoryLedger else fileLedger directory

end World

end GatedResolver
