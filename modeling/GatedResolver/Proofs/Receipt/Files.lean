import GatedResolver.Proofs.Files.Contents
import GatedResolver.Proofs.Receipt.Documents
import GatedResolver.Proofs.Text.Hex
import GatedResolver.Proofs.Text.Utf8
import GatedResolver.Receipt.Id
import GatedResolver.Receipt.Ledger

/-!
# Receipts in files

The name of the file of a receipt is a plain name, and another one for each id. So a receipt that
is stored in a directory is put into one file there, which is read back as that receipt, and the
files of other ids stay as they are.
-/

namespace GatedResolver.Receipt

open FileSystem (IsPlain Leads nameLimit pathIn pathLimit)

/-- An id that is short enough for the name of a file: hexadecimal digits and dashes, at least one
and no more than 242 of them. -/
structure IsShortId (id : String) : Prop where
  digits : isFileId id = true
  short : id.length ≤ 242

section Names

/-- A hexadecimal digit of either case, or a dash. -/
def isIdChar (character : Char) : Bool :=
  character.isDigit || ('a' ≤ character && character ≤ 'f') ||
    ('A' ≤ character && character ≤ 'F') || character == '-'

/-- The id of a file has characters, all of them digits or dashes. -/
theorem isFileId_iff {id : String} :
    isFileId id = true ↔ id.isEmpty = false ∧ ∀ character ∈ id.toList, isIdChar character = true := by
  simp only [isFileId, Bool.and_eq_true, Bool.not_eq_true', List.all_eq_true, isIdChar]

/-- Digits and dashes are ASCII, and none of them has a meaning in paths. -/
theorem plain_of_isIdChar {character : Char} (digit : isIdChar character = true) :
    character.toNat < 0x80 ∧ character ≠ '/' ∧ character ≠ '\x00' ∧ character ≠ '%' := by
  refine ⟨?_, ?_, ?_, ?_⟩
  · simp only [isIdChar, Char.isDigit, Bool.or_eq_true, Bool.and_eq_true, decide_eq_true_eq,
      beq_iff_eq, ge_iff_le, UInt32.le_iff_toNat_le, Char.le_def] at digit
    rcases digit with ((digit | small) | great) | rfl
    · have most : character.val.toNat ≤ 57 := digit.2
      exact Nat.lt_of_le_of_lt most (by decide)
    · have most : character.val.toNat ≤ 102 := small.2
      exact Nat.lt_of_le_of_lt most (by decide)
    · have most : character.val.toNat ≤ 70 := great.2
      exact Nat.lt_of_le_of_lt most (by decide)
    · decide
  all_goals
    rintro rfl
    revert digit
    decide

/-- The characters of ids of files are ASCII, and none of them has a meaning in paths. -/
theorem digit_of_isFileId {id : String} (digits : isFileId id = true) {character : Char}
    (member : character ∈ id.toList) :
    character.toNat < 0x80 ∧ character ≠ '/' ∧ character ≠ '\x00' ∧ character ≠ '%' :=
  plain_of_isIdChar ((isFileId_iff.mp digits).2 character member)

/-- An id of a file has as many bytes as characters. -/
theorem utf8ByteSize_of_isFileId {id : String} (digits : isFileId id = true) :
    id.utf8ByteSize = id.length := by
  have ascii := Text.utf8_ofList_ascii fun character member =>
    (@digit_of_isFileId _ digits character member).1
  rw [String.ofList_toList] at ascii
  rw [← Text.length_utf8, ascii, List.length_map, String.length_toList]

/-- The digits of bytes are digits of ids. -/
theorem isIdChar_of_mem_hexDigits {bytes : Bytes} {character : Char}
    (member : character ∈ Text.hexDigits bytes) : isIdChar character = true := by
  have digit := Text.isLowerHexDigit_of_mem_hexDigits member
  rw [Text.isLowerHexDigit] at digit
  rw [isIdChar, digit, Bool.true_or, Bool.true_or]

/-- An id has 16 bytes. -/
@[simp] theorem length_idBytes (entropy : Entropy) : (idBytes entropy).length = 16 := by
  simp [idBytes]

/-- The ids of receipts have 36 characters. -/
theorem length_idOf (entropy : Entropy) : (idOf entropy).length = 36 := by
  rw [← String.length_toList]
  simp [idOf]

/-- The ids of receipts are short enough for the names of files. -/
theorem isShortId_idOf (entropy : Entropy) : IsShortId (idOf entropy) := by
  have dash : isIdChar '-' = true := by decide
  constructor
  · rw [isFileId_iff]
    constructor
    · simp [idOf]
    · intro character member
      have digit : ∀ first length : Nat,
          character ∈ ((Text.hexDigits (idBytes entropy)).drop first).take length →
            isIdChar character = true := fun first length part =>
        isIdChar_of_mem_hexDigits (List.mem_of_mem_drop (List.mem_of_mem_take part))
      simp only [idOf, String.toList_ofList, List.mem_append, List.mem_cons] at member
      grind
  · rw [length_idOf]
    decide

/-- The characters of a file name are those of the id between two fixed texts. -/
theorem toList_fileName (id : String) :
    (fileName id).toList = "receipt-".toList ++ id.toList ++ ".json".toList := by
  simp [fileName]

/-- The file name of a receipt has no slashes. -/
theorem noSlash_fileName {id : String} (digits : isFileId id = true) :
    '/' ∉ (fileName id).toList := by
  rw [toList_fileName]
  simp only [List.mem_append, not_or]
  exact ⟨⟨by decide, fun member => (digit_of_isFileId digits member).2.1 rfl⟩, by decide⟩

/-- The file name of a receipt is the name of a step. -/
theorem step_fileName (id : String) : fileName id ≠ "" ∧ fileName id ≠ "." ∧ fileName id ≠ ".." := by
  have longer : 3 ≤ (fileName id).toList.length := by
    rw [toList_fileName]
    simp
  refine ⟨?_, ?_, ?_⟩ <;> intro same <;> rw [same] at longer <;> revert longer <;> decide

/-- The file name of a receipt has no NUL. -/
theorem noNul_fileName {id : String} (digits : isFileId id = true) :
    '\x00' ∉ (fileName id).toList := by
  rw [toList_fileName]
  simp only [List.mem_append, not_or]
  exact ⟨⟨by decide, fun member => (digit_of_isFileId digits member).2.2.1 rfl⟩, by decide⟩

/-- The file name of a receipt is 13 bytes longer than its id. -/
theorem utf8ByteSize_fileName {id : String} (digits : isFileId id = true) :
    (fileName id).utf8ByteSize = id.length + 13 := by
  have size : (fileName id).utf8ByteSize = 8 + id.utf8ByteSize + 5 := by
    simp [fileName, String.utf8ByteSize_append]
    rfl
  rw [size, utf8ByteSize_of_isFileId digits]
  omega

/-- The file name of a receipt is a plain name, if the id is short. -/
theorem IsShortId.plain {id : String} (shortId : IsShortId id) : IsPlain (fileName id) := by
  obtain ⟨digits, short⟩ := shortId
  refine ⟨noSlash_fileName digits, noNul_fileName digits, step_fileName id, ?_⟩
  rw [utf8ByteSize_fileName digits, nameLimit]
  omega

/-- Different ids have different file names. -/
theorem fileName_injective {left right : String} (same : fileName left = fileName right) :
    left = right := by
  have characters := congrArg String.toList same
  simp only [fileName, String.toList_append, List.append_assoc, List.append_cancel_left_eq,
    List.append_cancel_right_eq] at characters
  exact String.toList_inj.mp characters

/-- The path of the file of a receipt is no longer than its parts. -/
theorem room_of_isShortId {directory id : String} (shortId : IsShortId id)
    (room : directory.utf8ByteSize + nameLimit + 1 < pathLimit) :
    (pathIn directory (fileName id)).utf8ByteSize < pathLimit := by
  have short := shortId.plain.short
  unfold pathIn
  split
  · omega
  · split
    · rw [String.utf8ByteSize_append]
      omega
    · have slash : "/".utf8ByteSize = 1 := rfl
      rw [String.utf8ByteSize_append, String.utf8ByteSize_append, slash]
      omega

end Names

section Ledger

variable {directory id : String} {files : FileSystem} {here : Location}

/-- The path of the file of an id. -/
theorem pathFor_ok (digits : isFileId id = true) :
    pathFor directory id = .ok (pathIn directory (fileName id)) :=
  if_pos digits

/-- What is found under an id is what its file holds. -/
theorem fetchFile_eq (digits : isFileId id = true) :
    fetchFile directory files id =
      match files.read (pathIn directory (fileName id)) with
      | .ok content =>
        match Signed.decoder.decode content with
        | .ok receipt => .ok (some receipt)
        | .error fault => .error (.serialization fault.message)
      | .error .notFound => .ok none
      | .error fault => .error (.receiptStorage
          ("cannot read " ++ pathIn directory (fileName id) ++ ": " ++ fault.message)) := by
  rw [fetchFile, pathFor_ok digits]
  rfl

/-- A receipt that is found is what the file of its id holds. -/
theorem content_of_fetchFile {receipt : Signed}
    (found : fetchFile directory files id = .ok (some receipt)) :
    isFileId id = true ∧ ∃ content,
      files.read (pathIn directory (fileName id)) = .ok content ∧
        Signed.decoder.decode content = .ok receipt := by
  have digits : isFileId id = true := by
    by_contra other
    rw [fetchFile, pathFor, if_neg other] at found
    cases found
  rw [fetchFile_eq digits] at found
  split at found
  · next content held =>
    split at found
    · next receipt decoded =>
      cases found
      exact ⟨digits, content, held, decoded⟩
    · cases found
  · cases found
  · cases found

/-- A receipt with a storable record is found in the file that it was written into. -/
theorem fetchFile_of_read {receipt : Signed} (storable : Storable receipt.payload.record)
    (digits : isFileId id = true)
    (held : files.read (pathIn directory (fileName id)) = .ok receipt.toJson.indented) :
    fetchFile directory files id = .ok (some receipt) := by
  rw [fetchFile_eq digits, held]
  simp only [Signed.decode_indented storable]

/-- A receipt with a record that begins with the key of enclosures is not read back from the file
that it was written into. -/
theorem fetchFile_of_read_trap {receipt : Signed} (trapped : receipt.payload.record = trap)
    (digits : isFileId id = true)
    (held : files.read (pathIn directory (fileName id)) = .ok receipt.toJson.indented) :
    fetchFile directory files id = .error (.serialization "trailing comma") := by
  rw [fetchFile_eq digits, held]
  simp only [Signed.decode_indented_trap trapped]
  rfl

/-- A receipt is stored in a directory that is there once it is created, unless what has the name of
its file is a directory or a link. -/
theorem storeFile_of_leads {prepared : FileSystem} {receipt : Signed}
    (created : files.createDirectories directory = (.ok (), prepared))
    (leads : prepared.Leads directory here) (shortId : IsShortId receipt.id)
    (room : directory.utf8ByteSize + nameLimit + 1 < pathLimit)
    (unlinked : prepared.link? (here ++ [fileName receipt.id]) = none)
    (noDirectory : prepared.node? (here ++ [fileName receipt.id]) ≠ some .directory) :
    ∃ written, prepared.write (pathIn directory (fileName receipt.id)) receipt.toJson.indented =
        .ok written ∧
      storeFile directory files receipt =
        (.ok (pathIn directory (fileName receipt.id)), written) := by
  obtain ⟨written, done⟩ := FileSystem.write_of_leads shortId.plain
    (room_of_isShortId shortId room) leads unlinked noDirectory receipt.toJson.indented
  refine ⟨written, done, ?_⟩
  simp only [storeFile, pathFor_ok shortId.digits, created, done]

/-- A store leaves at most new directories behind if it fails, on the way to its own; otherwise the
directory is there and the receipt is written into its file. -/
theorem storeFile_cases (directory : String) (files : FileSystem) (receipt : Signed) :
    (∃ failure later, storeFile directory files receipt = (.error failure, later) ∧
      files.GrowsAlong later directory) ∨
    ∃ prepared written, isFileId receipt.id = true ∧
      files.createDirectories directory = (.ok (), prepared) ∧
      prepared.write (pathIn directory (fileName receipt.id)) receipt.toJson.indented =
        .ok written ∧
      storeFile directory files receipt =
        (.ok (pathIn directory (fileName receipt.id)), written) := by
  unfold storeFile pathFor
  by_cases digits : isFileId receipt.id = true
  · rw [if_pos digits]
    simp only
    split
    · next fault prepared created =>
      exact .inl ⟨_, _, rfl, FileSystem.growsAlong_of_created created⟩
    · next prepared created =>
      cases done : prepared.write (pathIn directory (fileName receipt.id))
        receipt.toJson.indented with
      | error fault => exact .inl ⟨_, _, rfl, FileSystem.growsAlong_of_created created⟩
      | ok written => exact .inr ⟨prepared, written, digits, created, done, rfl⟩
  · rw [if_neg digits]
    exact .inl ⟨_, _, rfl, .refl files directory⟩

/-- No file of a receipt in a directory is a link. -/
def Unlinked (directory : String) (files : FileSystem) : Prop :=
  ∀ id, IsShortId id → files.Unlinked directory (fileName id)

/-- A store makes no links. -/
theorem Unlinked.store (unlinked : Unlinked directory files) (receipt : Signed) :
    Unlinked directory (storeFile directory files receipt).2 := by
  intro id shortId
  rcases storeFile_cases directory files receipt with
    ⟨failure, later, stored, grows⟩ | ⟨prepared, written, digits, created, done, stored⟩
  · rw [stored]
    exact (unlinked id shortId).grows grows.grows
  · have grows := (FileSystem.growsAlong_of_created created).grows
    obtain ⟨location, led, -⟩ :=
      FileSystem.write_located (noSlash_fileName digits) (step_fileName receipt.id).1 done
    obtain ⟨here, -, -, leads, -⟩ :=
      FileSystem.walk_of_locate (noNul_fileName digits) (noSlash_fileName digits) led
    rw [stored]
    exact ((unlinked id shortId).grows grows).keeps (FileSystem.keeps_write done) leads

/-- The path of an id leads somewhere only if the id is short. -/
theorem isShortId_of_locate {location : Location} (digits : isFileId id = true)
    (led : files.locate (pathIn directory (fileName id)) = .ok location) : IsShortId id := by
  have short := (FileSystem.plain_of_locate (noNul_fileName digits) (noSlash_fileName digits)
    (step_fileName id) led).short
  rw [utf8ByteSize_fileName digits, nameLimit] at short
  exact ⟨digits, by omega⟩

/-- The paths of different ids never lead to the same file, unless one of them is that of a
link. -/
theorem locate_fileName_ne {left right : String} (digits : isFileId left = true)
    (otherDigits : isFileId right = true) (different : left ≠ right)
    (unlinked : files.Unlinked directory (fileName left))
    (otherUnlinked : files.Unlinked directory (fileName right)) {location : Location}
    (led : files.locate (pathIn directory (fileName left)) = .ok location) :
    files.locate (pathIn directory (fileName right)) ≠ .ok location := by
  intro otherLed
  obtain ⟨here, -, rfl⟩ :=
    unlinked.locate (noNul_fileName digits) (noSlash_fileName digits) (step_fileName left) led
  obtain ⟨there, -, same⟩ := otherUnlinked.locate (noNul_fileName otherDigits)
    (noSlash_fileName otherDigits) (step_fileName right) otherLed
  exact FileSystem.location_ne (fun names => different (fileName_injective names)) same

end Ledger

end GatedResolver.Receipt
