import GatedResolver.Proofs.Receipt.Files
import GatedResolver.Proofs.Text.Hex
import GatedResolver.Receipt.Signer
import Mathlib.Data.Fintype.Prod

/-!
# The ids of receipts

The id of a receipt is a UUID of version 4 (`isUuid_idOf`), which the ledger in files takes as it
is. It tells all random bits but the six that the version and the variant take the place of
(`idOf_eq_iff`), so two receipts are kept in one place only if the other 122 bits are the same.
-/

namespace GatedResolver.Receipt

open FileSystem (pathIn)

section Bits

/-- A bit of the random bits of an id: which byte it is in, and where. -/
abbrev BitPlace := Fin 16 × Fin 8

/-- Whether a bit of an id is not random: the upper half of the seventh byte holds the version, and
the two upper bits of the ninth hold the variant. -/
def isFixed (place : BitPlace) : Bool :=
  (place.1 == 6 && decide (4 ≤ place.2)) || (place.1 == 8 && decide (6 ≤ place.2))

/-- The bits of an id that are random. -/
def freeBits : Finset BitPlace :=
  Finset.univ.filter fun place => isFixed place = false

/-- A bit of random bits. -/
def bitAt (entropy : Entropy) (place : BitPlace) : Bool :=
  entropy[place.1].toNat.testBit place.2

/-- Random bits repeat others as far as they count in ids. -/
def Repeats (left right : Entropy) : Prop :=
  ∀ place ∈ freeBits, bitAt left place = bitAt right place

/-- The bits that an id keeps of a byte. -/
def keptMask (octet : Fin 16) : UInt8 :=
  if octet = 6 then 0x0F else if octet = 8 then 0x3F else 0xFF

/-- The bits that an id sets in a byte. -/
def setMask (octet : Fin 16) : UInt8 :=
  if octet = 6 then 0x40 else if octet = 8 then 0x80 else 0

/-- A byte of an id. -/
def stamped (entropy : Entropy) (octet : Fin 16) : UInt8 :=
  (entropy[octet] &&& keptMask octet) ||| setMask octet

/-- Of the 128 bits of an id 122 are random. -/
theorem card_freeBits : freeBits.card = 122 := by
  decide +kernel

/-- A bit is random exactly if it is kept and not set. -/
theorem masks_of_place (place : BitPlace) :
    (keptMask place.1).toNat.testBit place.2 = !isFixed place ∧
      ((setMask place.1).toNat.testBit place.2 = true → isFixed place = true) := by
  obtain ⟨octet, offset⟩ := place
  revert octet offset
  decide

/-- Bytes are the same if their bits are. -/
theorem octet_eq_iff {left right : UInt8} :
    left = right ↔ ∀ offset : Fin 8, left.toNat.testBit offset = right.toNat.testBit offset := by
  refine ⟨fun same offset => by rw [same], fun same => ?_⟩
  refine UInt8.toNat_inj.mp (Nat.eq_of_testBit_eq fun offset => ?_)
  by_cases within : offset < 8
  · exact same ⟨offset, within⟩
  · have beyond : ∀ octet : UInt8, octet.toNat.testBit offset = false := fun octet =>
      Nat.testBit_lt_two_pow (Nat.lt_of_lt_of_le octet.toNat_lt
        (Nat.pow_le_pow_right (by decide) (Nat.le_of_not_lt within)))
    rw [beyond, beyond]

/-- The bytes of an id. -/
theorem getElem_idBytes (entropy : Entropy) (octet : Fin 16) :
    (idBytes entropy)[octet.val]? = some (stamped entropy octet) := by
  obtain ⟨octet, within⟩ := octet
  simp only [idBytes, Vector.getElem?_toList, Vector.getElem?_eq_getElem within,
    Vector.getElem_set, stamped, keptMask, setMask, Fin.ext_iff, Fin.getElem_fin]
  by_cases version : octet = 6
  · subst version
    rfl
  · by_cases variant : octet = 8
    · subst variant
      rfl
    · have all : entropy[octet] &&& 0xFF = entropy[octet] := UInt8.and_neg_one
      simp [version, variant, Ne.symm version, Ne.symm variant, all]

/-- The bits of a byte of an id: the random ones, and those of the version and the variant. -/
theorem testBit_stamped (entropy : Entropy) (place : BitPlace) :
    (stamped entropy place.1).toNat.testBit place.2 =
      if isFixed place then (setMask place.1).toNat.testBit place.2 else bitAt entropy place := by
  obtain ⟨kept, set⟩ := masks_of_place place
  simp only [stamped, UInt8.toNat_or, UInt8.toNat_and, Nat.testBit_or, Nat.testBit_and, kept, bitAt]
  cases fixed : isFixed place with
  | true => simp
  | false =>
    have unset : (setMask place.1).toNat.testBit place.2 = false := by
      rw [← Bool.not_eq_true]
      exact fun isSet => absurd (set isSet) (by simp [fixed])
    simp [unset]

/-- Ids have the same bytes exactly if they do so byte by byte. -/
theorem idBytes_eq_iff_stamped {left right : Entropy} :
    idBytes left = idBytes right ↔ ∀ octet, stamped left octet = stamped right octet := by
  constructor
  · intro same octet
    have there := congrArg (fun bytes => bytes[octet.val]?) same
    simpa only [getElem_idBytes, Option.some.injEq] using there
  · intro same
    refine List.ext_getElem? fun place => ?_
    by_cases within : place < 16
    · have leftByte := getElem_idBytes left ⟨place, within⟩
      have rightByte := getElem_idBytes right ⟨place, within⟩
      rw [leftByte, rightByte, same]
    · have beyond : ∀ entropy : Entropy, (idBytes entropy)[place]? = none := fun entropy =>
        List.getElem?_eq_none (by simpa using within)
      rw [beyond, beyond]

/-- Ids have the same bytes exactly if the random bits are the same. -/
theorem idBytes_eq_iff {left right : Entropy} :
    idBytes left = idBytes right ↔ Repeats left right := by
  rw [idBytes_eq_iff_stamped]
  simp only [octet_eq_iff]
  constructor
  · intro same place free
    have bits := same place.1 place.2
    have unfixed : isFixed place = false := (Finset.mem_filter.mp free).2
    rwa [testBit_stamped, testBit_stamped, unfixed] at bits
  · intro same octet offset
    rw [testBit_stamped left (octet, offset), testBit_stamped right (octet, offset)]
    cases fixed : isFixed (octet, offset) with
    | true => rfl
    | false => exact same _ (Finset.mem_filter.mpr ⟨Finset.mem_univ _, fixed⟩)

end Bits

section Form

/-- The text form of a UUID of version 4: five groups of lower-case digits with dashes between
them, and the digits of the version and the variant in front of the third and the fourth. -/
structure IsUuid (text : String) : Prop where
  sizes : (Text.split '-' text.toList).map List.length = [8, 4, 4, 4, 12]
  digits : ∀ group ∈ Text.split '-' text.toList, ∀ character ∈ group,
    Text.isLowerHexDigit character = true
  version : ∃ others, (Text.split '-' text.toList)[2]? = some ('4' :: others)
  variant : ∃ digit others, (Text.split '-' text.toList)[3]? = some (digit :: others) ∧
    digit ∈ ['8', '9', 'a', 'b']

/-- The groups of digits of an id. -/
def idGroups (entropy : Entropy) : List (List Char) :=
  let digits := Text.hexDigits (idBytes entropy)
  [digits.take 8, (digits.drop 8).take 4, (digits.drop 12).take 4, (digits.drop 16).take 4,
    (digits.drop 20).take 12]

/-- The digits of an id are lower-case hexadecimal digits. -/
theorem isLowerHexDigit_of_mem_idGroups {entropy : Entropy} {group : List Char}
    (belongs : group ∈ idGroups entropy) {character : Char} (member : character ∈ group) :
    Text.isLowerHexDigit character = true := by
  have digit : character ∈ Text.hexDigits (idBytes entropy) := by
    simp only [idGroups, List.mem_cons, List.not_mem_nil, or_false] at belongs
    rcases belongs with rfl | rfl | rfl | rfl | rfl
    · exact List.mem_of_mem_take member
    all_goals exact List.mem_of_mem_drop (List.mem_of_mem_take member)
  exact Text.isLowerHexDigit_of_mem_hexDigits digit

/-- An id is cut at its dashes into its groups. -/
theorem split_idOf (entropy : Entropy) : Text.split '-' (idOf entropy).toList = idGroups entropy := by
  have joined : (idOf entropy).toList = ['-'].intercalate (idGroups entropy) := by
    simp [idOf, idGroups, List.intercalate]
  rw [joined]
  refine Text.split_intercalate (by simp [idGroups]) fun group belongs dash => ?_
  have digit := isLowerHexDigit_of_mem_idGroups belongs dash
  revert digit
  decide

/-- The groups of an id are its digits in a row. -/
theorem flatten_idGroups (entropy : Entropy) :
    (idGroups entropy).flatten = Text.hexDigits (idBytes entropy) := by
  have joins : ∀ start count, (Text.hexDigits (idBytes entropy)).take start ++
      ((Text.hexDigits (idBytes entropy)).drop start).take count =
        (Text.hexDigits (idBytes entropy)).take (start + count) := fun _ _ => List.take_add.symm
  simp only [idGroups, List.flatten_cons, List.flatten_nil, List.append_nil, ← List.append_assoc,
    joins]
  exact List.take_of_length_le (by simp)

/-- Ids are the same exactly if the random bits are. -/
theorem idOf_eq_iff {left right : Entropy} : idOf left = idOf right ↔ Repeats left right := by
  rw [← idBytes_eq_iff]
  refine ⟨fun same => ?_, fun same => by rw [idOf, idOf, same]⟩
  have groups := congrArg (fun id => (Text.split '-' id.toList).flatten) same
  simp only [split_idOf, flatten_idGroups] at groups
  exact Text.hexDigits_injective groups

/-- A group of digits begins with the digit that stands there. -/
theorem take_drop_eq_cons {digits : List Char} {start : Nat} {digit : Char}
    (there : digits[start]? = some digit) (count : Nat) :
    ∃ others, (digits.drop start).take (count + 1) = digit :: others := by
  obtain ⟨within, rfl⟩ := List.getElem?_eq_some_iff.mp there
  rw [List.drop_eq_getElem_cons within]
  exact ⟨_, rfl⟩

/-- The digit of the version is four. -/
theorem hexDigit_version (octet : UInt8) :
    Text.hexDigit (((octet &&& 0x0F) ||| 0x40).toNat / 16) = '4' :=
  Text.forall_octet (by decide +kernel) octet

/-- The digit of the variant has the two upper bits of an eight. -/
theorem hexDigit_variant (octet : UInt8) :
    Text.hexDigit (((octet &&& 0x3F) ||| 0x80).toNat / 16) ∈ ['8', '9', 'a', 'b'] :=
  Text.forall_octet (by decide +kernel) octet

/-- The ids of receipts are UUIDs of version 4. -/
theorem isUuid_idOf (entropy : Entropy) : IsUuid (idOf entropy) := by
  have upper : ∀ octet : Fin 16, (Text.hexDigits (idBytes entropy))[2 * octet.val]? =
      some (Text.hexDigit ((stamped entropy octet).toNat / 16)) := by
    intro octet
    rw [Text.getElem?_hexDigits, getElem_idBytes]
    rfl
  refine ⟨?sizes, ?digits, ?version, ?variant⟩
  all_goals rw [split_idOf]
  case sizes => simp [idGroups]
  case digits => exact fun group belongs character => isLowerHexDigit_of_mem_idGroups belongs
  case version =>
    obtain ⟨others, group⟩ := take_drop_eq_cons (upper 6) 3
    refine ⟨others, congrArg some (group.trans ?_)⟩
    rw [← hexDigit_version entropy[6]]
    rfl
  case variant =>
    obtain ⟨others, group⟩ := take_drop_eq_cons (upper 8) 3
    exact ⟨_, others, congrArg some group, hexDigit_variant entropy[8]⟩

end Form

section Places

/-- A directory has different paths for different names. -/
theorem pathIn_injective {directory left right : String}
    (same : pathIn directory left = pathIn directory right) : left = right := by
  unfold pathIn at same
  split at same
  · exact same
  · split at same
    all_goals
      have characters := congrArg String.toList same
      simp only [String.toList_append, List.append_assoc, List.append_cancel_left_eq] at characters
      exact String.toList_inj.mp characters

/-- The ledger in files has a path for every id. -/
theorem pathFor_idOf (directory : String) (entropy : Entropy) :
    pathFor directory (idOf entropy) = .ok (pathIn directory (fileName (idOf entropy))) :=
  if_pos (isShortId_idOf entropy).digits

/-- Ids have one path in a directory exactly if the random bits are the same. -/
theorem pathFor_idOf_eq_iff {directory : String} {left right : Entropy} :
    pathFor directory (idOf left) = pathFor directory (idOf right) ↔ Repeats left right := by
  rw [pathFor_idOf, pathFor_idOf, ← idOf_eq_iff]
  refine ⟨fun same => ?_, fun same => by rw [same]⟩
  exact fileName_injective (pathIn_injective (Except.ok.inj same))

/-- A receipt with an id of a file is put into that file, unless the file system refuses that. -/
theorem storeFile_of_digits (directory : String) (files : FileSystem) {receipt : Signed}
    (digits : isFileId receipt.id = true) :
    (storeFile directory files receipt).1 = .ok (pathIn directory (fileName receipt.id)) ∨
      ∃ reason, (storeFile directory files receipt).1 = .error (.receiptStorage reason) := by
  have path : pathFor directory receipt.id = .ok (pathIn directory (fileName receipt.id)) :=
    if_pos digits
  rw [storeFile, path]
  dsimp only
  split
  · exact .inr ⟨_, rfl⟩
  · split
    · exact .inr ⟨_, rfl⟩
    · exact .inl rfl

/-- What a client is told about a record that it hands in. -/
theorem submit_fst {State : Type} (signer : Signer State) (record : Json.Value) (state : State) :
    (signer.submit record state).1 =
      (signer.ledger.store (signer.stamp state).2
        (signer.receiptFor (signer.stamp state).1 record)).1.map
          fun location => ⟨idOf (signer.stamp state).1.entropy, location⟩ :=
  rfl

/-- A record is put into the file of its id, unless the file system refuses that. -/
theorem submit_fileLedger (key : Key) (directory : String)
    (stamp : FileSystem → Stamp × FileSystem) (record : Json.Value) (files : FileSystem) :
    (Signer.submit ⟨key, fileLedger directory, stamp⟩ record files).1 =
        .ok ⟨idOf (stamp files).1.entropy,
          pathIn directory (fileName (idOf (stamp files).1.entropy))⟩ ∨
      ∃ reason, (Signer.submit ⟨key, fileLedger directory, stamp⟩ record files).1 =
        .error (.receiptStorage reason) := by
  let signer : Signer FileSystem := ⟨key, fileLedger directory, stamp⟩
  have named : (signer.receiptFor (stamp files).1 record).id = idOf (stamp files).1.entropy := rfl
  have digits := (isShortId_idOf (stamp files).1.entropy).digits
  have outcome := storeFile_of_digits directory (stamp files).2 (named ▸ digits)
  rw [named] at outcome
  rw [submit_fst]
  rcases outcome with stored | ⟨reason, failed⟩
  · exact .inl (congrArg _ stored)
  · exact .inr ⟨reason, congrArg _ failed⟩

end Places

/-- The ids of receipts are UUIDs of version 4 with 122 random bits, and each tells them all. The
ledger in files has a path for every one of them, so a record is refused by the file system only,
and the ledger in memory keeps every record. Ids, files and entries in memory of two receipts are
the same only if those bits repeat. -/
theorem idOf_tells_randomBits (left right : Entropy) :
    (idOf left).length = 36 ∧ IsUuid (idOf left) ∧
    (∀ directory, pathFor directory (idOf left) =
      .ok (pathIn directory (fileName (idOf left)))) ∧
    (∀ key directory stamp record files,
      (Signer.submit ⟨key, fileLedger directory, stamp⟩ record files).1 =
          .ok ⟨idOf (stamp files).1.entropy,
            pathIn directory (fileName (idOf (stamp files).1.entropy))⟩ ∨
        ∃ reason, (Signer.submit ⟨key, fileLedger directory, stamp⟩ record files).1 =
          .error (.receiptStorage reason)) ∧
    (∀ key stamp record memory, (Signer.submit ⟨key, memoryLedger, stamp⟩ record memory).1 =
      .ok ⟨idOf (stamp memory).1.entropy,
        "memory://receipt-" ++ idOf (stamp memory).1.entropy⟩) ∧
    freeBits.card = 122 ∧
    (idOf left = idOf right ↔ Repeats left right) ∧
    (fileName (idOf left) = fileName (idOf right) ↔ Repeats left right) ∧
    (∀ directory, pathFor directory (idOf left) = pathFor directory (idOf right) ↔
      Repeats left right) ∧
    (∀ (memory : Memory) (key : Key) timestamp record,
      memoryLedger.fetch
          (memoryLedger.store memory (key.attest ⟨idOf right, timestamp, record⟩)).2 (idOf left) =
        memoryLedger.fetch memory (idOf left) ∨ Repeats left right) := by
  refine ⟨length_idOf left, isUuid_idOf left, fun directory => pathFor_idOf directory left,
    submit_fileLedger, fun _ _ _ _ => rfl, card_freeBits, idOf_eq_iff, ?names,
    fun directory => pathFor_idOf_eq_iff, ?memory⟩
  case names =>
    rw [← idOf_eq_iff]
    exact ⟨fileName_injective, congrArg fileName⟩
  case memory =>
    intro memory key timestamp record
    have named : (key.attest ⟨idOf right, timestamp, record⟩).id = idOf right := rfl
    rw [fetch_store_memoryLedger, named, ← idOf_eq_iff]
    by_cases same : idOf left = idOf right
    · exact .inr same
    · exact .inl (if_neg same)

-- The bits of the version and the variant are the only ones of an id without random bits.
example : idOf (Vector.replicate 16 0) = "00000000-0000-4000-8000-000000000000" := by
  decide

end GatedResolver.Receipt
