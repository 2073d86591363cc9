/-!
# Tables

A table maps keys to values. Its entries keep the order in which their keys came first.
The view of a table is `find?`; each operation has one equation about it.
-/

namespace GatedResolver

/-- A table of keys and values. -/
structure Table (Key Value : Type) where
  entries : List (Key × Value)
deriving DecidableEq

namespace Table

variable {Key Value : Type} [DecidableEq Key]

/-- The value of a key among entries. -/
def valueIn? (key : Key) : List (Key × Value) → Option Value
  | [] => none
  | (otherKey, value) :: rest => if key = otherKey then some value else valueIn? key rest

/-- Give a key a value, in the place of its earlier entry if it has one. -/
def setEntry (key : Key) (value : Value) : List (Key × Value) → List (Key × Value)
  | [] => [(key, value)]
  | (otherKey, otherValue) :: rest =>
    if key = otherKey then (key, value) :: rest
    else (otherKey, otherValue) :: setEntry key value rest

/-- The table without entries. -/
def empty : Table Key Value := ⟨[]⟩

/-- The value of a key. -/
def find? (table : Table Key Value) (key : Key) : Option Value :=
  valueIn? key table.entries

/-- Give a key a value. -/
def set (table : Table Key Value) (key : Key) (value : Value) : Table Key Value :=
  ⟨setEntry key value table.entries⟩

/-- Take a key out. -/
def erase (table : Table Key Value) (key : Key) : Table Key Value :=
  ⟨table.entries.filter fun entry => entry.1 ≠ key⟩

/-- How many keys have a value. -/
def size (table : Table Key Value) : Nat :=
  table.entries.length

@[simp] theorem find?_empty (key : Key) : (empty : Table Key Value).find? key = none :=
  rfl

/-- Setting a key changes what is found under that key and nothing else. -/
@[simp] theorem find?_set (table : Table Key Value) (key other : Key) (value : Value) :
    (table.set key value).find? other = if other = key then some value else table.find? other := by
  rcases table with ⟨entries⟩
  simp only [find?, set]
  induction entries with
  | nil => simp [setEntry, valueIn?]
  | cons entry rest inductionHypothesis =>
    obtain ⟨entryKey, entryValue⟩ := entry
    by_cases same : key = entryKey
    · subst same
      by_cases wanted : other = key <;> simp [setEntry, valueIn?, wanted]
    · simp only [setEntry, if_neg same, valueIn?, inductionHypothesis]
      by_cases wanted : other = entryKey
      · have different : other ≠ key := fun equal => same (equal.symm.trans wanted)
        simp [wanted, Ne.symm same]
      · simp [wanted]

/-- Taking a key out changes what is found under that key and nothing else. -/
@[simp] theorem find?_erase (table : Table Key Value) (key other : Key) :
    (table.erase key).find? other = if other = key then none else table.find? other := by
  rcases table with ⟨entries⟩
  simp only [find?, erase]
  induction entries with
  | nil => simp [valueIn?]
  | cons entry rest inductionHypothesis =>
    obtain ⟨entryKey, entryValue⟩ := entry
    by_cases same : entryKey = key
    · subst same
      by_cases wanted : other = entryKey
      · simp_all
      · simp_all [valueIn?]
    · by_cases wanted : other = entryKey
      · subst wanted
        simp [valueIn?, same]
      · simp_all [valueIn?]

/-- A table grows exactly when a key is set that had no value. -/
theorem size_set (table : Table Key Value) (key : Key) (value : Value) :
    (table.set key value).size = if (table.find? key).isSome then table.size else table.size + 1 := by
  rcases table with ⟨entries⟩
  simp only [find?, set, size]
  induction entries with
  | nil => simp [setEntry, valueIn?]
  | cons entry rest inductionHypothesis =>
    obtain ⟨entryKey, entryValue⟩ := entry
    by_cases same : key = entryKey
    · simp [setEntry, valueIn?, same]
    · simp only [setEntry, if_neg same, valueIn?, List.length_cons, inductionHypothesis]
      by_cases known : (valueIn? key rest).isSome = true <;> simp [known]

/-- A key that no entry has is set at the end. -/
theorem entries_set_of_unknown {table : Table Key Value} {key : Key}
    (unknown : ∀ entry ∈ table.entries, entry.1 ≠ key) (value : Value) :
    (table.set key value).entries = table.entries ++ [(key, value)] := by
  rcases table with ⟨entries⟩
  simp only [set] at unknown ⊢
  induction entries with
  | nil => rfl
  | cons entry rest inductionHypothesis =>
    obtain ⟨entryKey, entryValue⟩ := entry
    have different : key ≠ entryKey := (unknown (entryKey, entryValue) List.mem_cons_self).symm
    rw [setEntry, if_neg different,
      inductionHypothesis fun other member => unknown other (List.mem_cons_of_mem _ member)]
    rfl

/-- Where every key has one entry, each entry is the one that is found. -/
theorem find?_of_mem {table : Table Key Value} {key : Key} {value : Value}
    (distinct : (table.entries.map Prod.fst).Nodup) (member : (key, value) ∈ table.entries) :
    table.find? key = some value := by
  rcases table with ⟨entries⟩
  simp only [find?] at distinct member ⊢
  induction entries with
  | nil => cases member
  | cons entry rest inductionHypothesis =>
    obtain ⟨entryKey, entryValue⟩ := entry
    simp only [List.map_cons, List.nodup_cons] at distinct
    rcases List.mem_cons.mp member with same | later
    · cases same
      simp [valueIn?]
    · have different : key ≠ entryKey := by
        rintro rfl
        exact distinct.1 (List.mem_map_of_mem later)
      rw [valueIn?, if_neg different]
      exact inductionHypothesis distinct.2 later

end Table

end GatedResolver
