import GatedResolver.Answer
import GatedResolver.Binary64.Basic
import GatedResolver.Name
import GatedResolver.Table

/-!
# The answer cache

The cache keeps the last answer that was stored for each name and never forgets one.
Counters tell how often it was asked and written. An operation on the entries and the
count that goes with it are separate steps, so that several operations can be interleaved.
-/

namespace GatedResolver

/-- How often a cache was asked and written. -/
structure CacheCounters where
  hits : Nat := 0
  misses : Nat := 0
  insertions : Nat := 0
  overwrites : Nat := 0
deriving DecidableEq

/-- Answers by name, with counters. -/
structure Cache where
  entries : Table Name Answer
  counters : CacheCounters
deriving DecidableEq

namespace Cache

/-- A cache that was never used. -/
def empty : Cache := ⟨.empty, {}⟩

/-- The answer for a name, without a count. -/
def find? (cache : Cache) (name : Name) : Option Answer :=
  cache.entries.find? name

/-- Keep an answer for a name, without a count. -/
def insert (cache : Cache) (name : Name) (answer : Answer) : Cache :=
  ⟨cache.entries.set name answer, cache.counters⟩

/-- Count a question by whether it was answered. -/
def countLookup (cache : Cache) (found : Bool) : Cache :=
  let counters := cache.counters
  if found then ⟨cache.entries, { counters with hits := counters.hits + 1 }⟩
  else ⟨cache.entries, { counters with misses := counters.misses + 1 }⟩

/-- Count an answer that was kept. -/
def countInsertion (cache : Cache) : Cache :=
  let counters := cache.counters
  ⟨cache.entries, { counters with insertions := counters.insertions + 1 }⟩

/-- Count an answer that took the place of another one. -/
def countOverwrite (cache : Cache) : Cache :=
  let counters := cache.counters
  ⟨cache.entries, { counters with overwrites := counters.overwrites + 1 }⟩

/-- Ask for a name. -/
def get (cache : Cache) (name : Name) : Option Answer × Cache :=
  let found := cache.find? name
  (found, cache.countLookup found.isSome)

/-- Keep an answer for a name. -/
def put (cache : Cache) (name : Name) (answer : Answer) : Cache :=
  let known := (cache.find? name).isSome
  let inserted := (cache.insert name answer).countInsertion
  if known then inserted.countOverwrite else inserted

/-- How many names have an answer. -/
def size (cache : Cache) : Nat :=
  cache.entries.size

@[simp] theorem find?_empty (name : Name) : empty.find? name = none :=
  rfl

/-- Keeping an answer changes what is found for its name and nothing else. -/
@[simp] theorem find?_insert (cache : Cache) (name other : Name) (answer : Answer) :
    (cache.insert name answer).find? other =
      if other = name then some answer else cache.find? other :=
  Table.find?_set cache.entries name other answer

@[simp] theorem entries_countLookup (cache : Cache) (found : Bool) :
    (cache.countLookup found).entries = cache.entries := by
  cases found <;> rfl

/-- What is found does not depend on the counters. -/
theorem find?_congr {left right : Cache} (same : left.entries = right.entries) (name : Name) :
    left.find? name = right.find? name := by
  rw [find?, find?, same]

/-- A question gets what is found for its name. -/
@[simp] theorem fst_get (cache : Cache) (name : Name) :
    (cache.get name).1 = cache.find? name :=
  rfl

/-- A question leaves every entry as it is. -/
@[simp] theorem entries_get (cache : Cache) (name : Name) :
    (cache.get name).2.entries = cache.entries :=
  entries_countLookup cache _

@[simp] theorem entries_put (cache : Cache) (name : Name) (answer : Answer) :
    (cache.put name answer).entries = cache.entries.set name answer := by
  unfold put
  dsimp only
  split <;> rfl

/-- Putting an answer changes what is found for its name and nothing else. -/
@[simp] theorem find?_put (cache : Cache) (name other : Name) (answer : Answer) :
    (cache.put name answer).find? other =
      if other = name then some answer else cache.find? other := by
  rw [find?, entries_put]
  exact Table.find?_set cache.entries name other answer

end Cache

/-- The part of the questions that were answered, in percent. Both steps of the
computation round to a 64-bit number. -/
def CacheCounters.hitRate (counters : CacheCounters) : Binary64 :=
  let total := counters.hits + counters.misses
  if total = 0 then .zero false
  else ((Binary64.ofNat counters.hits).div (.ofNat total)).mul (.ofNat 100)

end GatedResolver
