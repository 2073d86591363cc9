import GatedResolver.Proofs.Receipt.Archive

/-!
# One file for each id

What a ledger in files does under an id stays in one file: an id with any other character than
hexadecimal digits and dashes is refused before anything is touched, and a store under an accepted
one adds directories on the way to the directory of the ledger and sets the file that the path of
the id leads to (`Confined`). That file is directly in the directory, unless the name of the id
there is that of a link; and the paths of two ids lead to one file only if one of the names is that
of a link (`Share`). So the receipts that were stored under other ids stay readable, be the store
complete or broken off at any point, if they have files of their own, and all of them do when a
store fails.
-/

namespace GatedResolver

open FileSystem (Place pathIn)

namespace Receipt

variable {directory id other : String} {files later : FileSystem}

section Refusals

/-- A text is no id of a file if it is empty or has a character that is neither a digit nor a
dash. -/
theorem isFileId_eq_false_iff :
    isFileId id = false ↔
      id.isEmpty = true ∨ ∃ character ∈ id.toList, isIdChar character = false := by
  rw [← Bool.not_eq_true, isFileId_iff, Classical.not_and_iff_not_or_not, Bool.not_eq_false,
    Classical.not_forall]
  simp

/-- A receipt with another id is not stored, and nothing is touched. -/
theorem storeFile_of_refused {receipt : Signed} (refused : isFileId receipt.id = false) :
    storeFile directory files receipt =
      (.error (.invalidRequest ("invalid receipt id: " ++ receipt.id)), files) := by
  simp [storeFile, pathFor, refused]

/-- Another id is not looked up. -/
theorem fetchFile_of_refused (refused : isFileId id = false) :
    fetchFile directory files id = .error (.invalidRequest ("invalid receipt id: " ++ id)) := by
  rw [fetchFile, pathFor, refused]
  rfl

end Refusals

section Confinement

/-- What happened to the files is confined to one id: there are new directories on the way to the
directory of the ledger, and the file that the path of the id leads to may have any content. That
file is directly in the directory, unless the name of the id there is that of a link. -/
structure Confined (directory id : String) (files later : FileSystem) : Prop where
  start : later.start = files.start
  nodes : ∀ location, later.node? location = files.node? location ∨
    (files.node? location = none ∧ later.node? location = some .directory ∧
      later.OnWay directory location) ∨
    (files.node? location ≠ some .directory ∧ files.link? location = none ∧
      ∃ here content, later.Leads directory here ∧
        later.locate (pathIn directory (fileName id)) = .ok location ∧
        (files.link? (here ++ [fileName id]) = none → location = here ++ [fileName id]) ∧
        later.node? location = some (.file content))

/-- New directories on the way are confined to any id. -/
theorem confined_of_growsAlong (grows : files.GrowsAlong later directory) :
    Confined directory id files later :=
  ⟨grows.start, fun location => (grows.nodes location).imp_right .inl⟩

/-- A write into the file of an id, behind new directories on the way, is confined to that id. -/
theorem confined_write (digits : isFileId id = true) {prepared : FileSystem} {content : Bytes}
    (grows : files.GrowsAlong prepared directory)
    (done : prepared.write (pathIn directory (fileName id)) content = .ok later) :
    Confined directory id files later := by
  have plain := FileSystem.plain_of_write (noNul_fileName digits) (noSlash_fileName digits)
    (step_fileName id) done
  obtain ⟨place, led, noDirectory, noLink, start, nodes⟩ := FileSystem.write_ok done
  rw [FileSystem.locateNew_pathIn plain.noSlash plain.step.1] at led
  obtain ⟨here, links, left, leads, last⟩ :=
    FileSystem.walk_of_locate plain.noNul plain.noSlash led
  have keeps := FileSystem.keeps_write done
  have grown := grows.grows.keeps
  refine ⟨start.trans grows.start, fun location => ?_⟩
  by_cases own : location = place
  · subst own
    have written : later.node? location = some (.file content) := by rw [nodes, if_pos rfl]
    refine .inr (.inr ⟨fun there => noDirectory (grown.directories location there), ?_, here,
      content, keeps.leads leads, keeps.locateNames led, fun unlinked => ?_, written⟩)
    · rw [← grown.links, noLink]
    · have stillUnlinked := (grown.links _).trans unlinked
      exact congrArg Place.location ((FileSystem.walk_plain_iff plain stillUnlinked).mp last).2
  · have same : later.node? location = prepared.node? location := by rw [nodes, if_neg own]
    rw [same]
    refine (grows.nodes location).imp_right ?_
    rintro ⟨none, there, onWay⟩
    exact .inl ⟨none, there, onWay.keeps keeps⟩

/-- A store is confined to the id of its receipt. -/
theorem confined_storeFile (directory : String) (files : FileSystem) (receipt : Signed) :
    Confined directory receipt.id files (storeFile directory files receipt).2 := by
  rcases storeFile_cases directory files receipt with
    ⟨failure, later, stored, grows⟩ | ⟨prepared, written, digits, created, done, stored⟩
  · rw [stored]
    exact confined_of_growsAlong grows
  · rw [stored]
    exact confined_write digits (FileSystem.growsAlong_of_created created) done

end Confinement

section Sharing

/-- The paths of two ids lead to one file, be it once directories are created. -/
def Share (directory left right : String) (files : FileSystem) : Prop :=
  ∃ later location, files.Grows later ∧
    later.locate (pathIn directory (fileName left)) = .ok location ∧
    later.locate (pathIn directory (fileName right)) = .ok location

/-- Different ids have files of their own, unless the name of one of them is that of a link. -/
theorem not_share (digits : isFileId id = true) (otherDigits : isFileId other = true)
    (different : id ≠ other) (unlinked : files.Unlinked directory (fileName id))
    (otherUnlinked : files.Unlinked directory (fileName other)) :
    ¬ Share directory id other files := by
  rintro ⟨later, location, grows, led, otherLed⟩
  exact locate_fileName_ne digits otherDigits different (unlinked.grows grows)
    (otherUnlinked.grows grows) led otherLed

/-- Ids whose paths lead to different files have files of their own. -/
theorem not_share_of_locate {location place : Location} (different : location ≠ place)
    (led : files.locate (pathIn directory (fileName id)) = .ok location)
    (otherLed : files.locate (pathIn directory (fileName other)) = .ok place) :
    ¬ Share directory id other files := by
  rintro ⟨later, shared, grows, leads, otherLeads⟩
  obtain rfl : location = shared :=
    Except.ok.inj ((grows.keeps.locateNames led).symm.trans leads)
  exact different (Except.ok.inj (otherLeads.symm.trans (grows.keeps.locateNames otherLed)))

variable {found : Signed}

/-- A receipt is found while its file holds what it held. -/
theorem fetchFile_of_read_eq (stored : fetchFile directory files other = .ok (some found))
    (holds : ∀ content, files.read (pathIn directory (fileName other)) = .ok content →
      later.read (pathIn directory (fileName other)) = .ok content) :
    fetchFile directory later other = .ok (some found) := by
  obtain ⟨digits, content, held, decoded⟩ := content_of_fetchFile stored
  rw [fetchFile_eq digits, holds content held]
  simp only [decoded]

/-- A receipt is found when directories are created. -/
theorem fetchFile_of_grows (stored : fetchFile directory files other = .ok (some found))
    (grows : files.Grows later) : fetchFile directory later other = .ok (some found) :=
  fetchFile_of_read_eq stored fun _ held => grows.read held

/-- A receipt is found when another file is written, be it with what is only the beginning of a
text. -/
theorem fetchFile_of_write (stored : fetchFile directory files other = .ok (some found))
    (apart : ¬ Share directory id other files) (digits : isFileId id = true)
    {prepared : FileSystem} (grows : files.Grows prepared) {content : Bytes}
    (done : prepared.write (pathIn directory (fileName id)) content = .ok later) :
    fetchFile directory later other = .ok (some found) := by
  refine fetchFile_of_read_eq stored fun held holds => ?_
  refine FileSystem.read_write_of_apart (noSlash_fileName digits) (step_fileName id).1 ?_ done
    (grows.read holds)
  exact fun location led otherLed => apart ⟨prepared, location, grows, led, otherLed⟩

end Sharing

end Receipt

namespace Archive

open Http (Names)
open Receipt (Confined Share Signed fetchFile fileName isFileId isIdChar storeFile)

/-- A lookup leaves everything as it is, whatever its segment is. -/
theorem respond_lookupOf_snd (key : Receipt.Key) (directory segment : String) (world : World) :
    (respond key directory (lookupOf segment) world).2 = world := by
  rw [respond_lookupOf]
  split
  · rfl
  · exact fetchReport_snd segment

/-- A lookup of a text that is no id of a file is refused. -/
theorem respond_lookupOf_refused {key : Receipt.Key} {directory segment id : String}
    (names : Names segment id) (refused : isFileId id = false) (world : World) :
    respond key directory (lookupOf segment) world =
      (.ofFailure (.invalidRequest ("invalid receipt id: " ++ id)), world) := by
  have fetched : (signer key directory).ledger.fetch world id =
      .error (.invalidRequest ("invalid receipt id: " ++ id)) :=
    Receipt.fetchFile_of_refused refused
  rw [respond_lookupOf_names names, Receipt.Signer.report, fetched]
  rfl

/-- A directory with one receipt, where the name of the file of another one is that of a directory,
and that of a third one is that of a link out of the directory. -/
def obstructed : FileSystem :=
  ⟨⟨[(["receipts"], .directory),
    (["receipts", "receipt-ab.json"], .file (Receipt.sample .null).toJson.indented),
    (["receipts", "receipt-cd.json"], .directory),
    (["receipts", "receipt-ef.json"], .link (.path "../elsewhere"))]⟩, []⟩

/-- A directory with one receipt, where the name of the file of another one is that of a link. -/
def linked (target : LinkTarget) : FileSystem :=
  ⟨⟨[(["receipts"], .directory),
    (["receipts", "receipt-ab.json"], .file (Receipt.sample .null).toJson.indented),
    (["receipts", "receipt-cd.json"], .link target)]⟩, []⟩

end Archive

end GatedResolver
