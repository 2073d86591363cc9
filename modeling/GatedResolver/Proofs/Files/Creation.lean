import GatedResolver.Proofs.Files.Paths

/-!
# Directories on the way

To create a directory with those on the way to it means to create directories along the first
steps of its path, each of them where nothing was. So a file system only grows, and what is new in
it is passed on the way along that path (`GrowsAlong`).
-/

namespace GatedResolver.FileSystem

variable {files later : FileSystem} {path goal : String} {location : Location}

section Steps

/-- A name is a step, and a name in a path. -/
def IsStep (name : String) : Prop :=
  '/' ∉ name.toList ∧ name ≠ "" ∧ name ≠ "."

/-- The steps of a path are steps. -/
theorem isStep_of_mem_steps {name : String} (member : name ∈ steps path) : IsStep name := by
  obtain ⟨isName, isStep⟩ := List.mem_filter.mp member
  obtain ⟨part, isPart, rfl⟩ := List.mem_map.mp isName
  rw [IsStep, String.toList_ofList]
  exact ⟨Text.notMem_of_mem_split isPart, by simpa using isStep⟩

/-- The parts of a text that is joined of steps are those steps. -/
theorem split_join {taken : List String} (present : taken ≠ [])
    (areSteps : ∀ name ∈ taken, IsStep name) :
    Text.split '/' ("/".intercalate taken).toList = taken.map String.toList := by
  have slash : "/".toList = ['/'] := rfl
  rw [String.toList_intercalate, slash]
  refine Text.split_intercalate (by simpa using present) fun part member => ?_
  obtain ⟨name, isTaken, rfl⟩ := List.mem_map.mp member
  exact (areSteps name isTaken).1

/-- The steps of a text that is joined of steps are those steps. -/
theorem steps_join {taken : List String} (areSteps : ∀ name ∈ taken, IsStep name) :
    steps ("/".intercalate taken) = taken := by
  rw [steps, names]
  by_cases present : taken = []
  · subst present
    rfl
  · have whole : (taken.map String.toList).map String.ofList = taken := by simp
    rw [split_join present areSteps, whole, List.filter_eq_self]
    exact fun name member => by simpa using (areSteps name member).2

/-- A text that is joined of steps does not begin with a slash. -/
theorem head_join {taken : List String} (areSteps : ∀ name ∈ taken, IsStep name) :
    ("/".intercalate taken).toList.head? ≠ some '/' := by
  intro first
  by_cases present : taken = []
  · subst present
    cases first
  · obtain ⟨rest, parts⟩ := List.head?_eq_some_iff.mp first
    have cut := split_join present areSteps
    rw [parts, Text.split_cons, if_pos rfl] at cut
    obtain ⟨name, others, rfl⟩ := List.exists_cons_of_ne_nil present
    have blank : name.toList = [] := (List.cons.inj cut).1.symm
    exact (areSteps name (.head _)).2.1 (by simpa using blank)

/-- Where a path begins with the first steps of another one. -/
structure Begins (goal path : String) : Prop where
  steps : ∃ count, FileSystem.steps goal = (FileSystem.steps path).take count
  start : ∀ files : FileSystem, files.startOf goal = files.startOf path

/-- A path begins with all of its steps. -/
theorem Begins.refl (path : String) : Begins path path :=
  ⟨⟨_, List.take_length.symm⟩, fun _ => rfl⟩

/-- The steps of the path of the first steps are those. -/
theorem steps_upTo (path : String) (count : Nat) :
    steps (upTo path count) = (steps path).take count := by
  have areSteps : ∀ name ∈ (steps path).take count, IsStep name :=
    fun name member => isStep_of_mem_steps (List.mem_of_mem_take member)
  have joined := steps_join areSteps
  unfold upTo
  split
  · rw [steps, names, String.toList_append]
    change ((Text.split '/' ('/' :: _)).map String.ofList).filter _ = _
    rw [Text.split_cons, if_pos rfl]
    exact joined
  · rwa [String.empty_append]

/-- The path of the first steps begins where the whole path does. -/
theorem startOf_upTo (files : FileSystem) (path : String) (count : Nat) :
    files.startOf (upTo path count) = files.startOf path := by
  have areSteps : ∀ name ∈ (steps path).take count, IsStep name :=
    fun name member => isStep_of_mem_steps (List.mem_of_mem_take member)
  unfold startOf originOf upTo
  split
  · next fromRoot => simp
  · next fromStart => rw [String.empty_append, if_neg (head_join areSteps)]

/-- The path of the first steps is a beginning. -/
theorem begins_upTo (path : String) (count : Nat) : Begins (upTo path count) path :=
  ⟨⟨count, steps_upTo path count⟩, fun files => startOf_upTo files path count⟩

/-- A walk leads where it leads along the steps alone. -/
theorem walk_steps {links : Nat} {here : Location} {names : List String} {place : Place}
    (led : files.walk links here names = .ok place) :
    files.walk links here (names.filter fun name => name ≠ "" ∧ name ≠ ".") = .ok place := by
  induction names generalizing links here with
  | nil => exact led
  | cons name rest inductionHypothesis =>
    rw [← List.singleton_append, walk_append] at led
    obtain ⟨⟨next, left⟩, stepped, onward⟩ := ok_of_bind led
    by_cases isStep : name ≠ "" ∧ name ≠ "."
    · rw [List.filter_cons_of_pos (by simpa using isStep), ← List.singleton_append, walk_append,
        stepped]
      exact inductionHypothesis onward
    · rw [List.filter_cons_of_neg (by simpa using isStep)]
      have stays : name = "" ∨ name = "." := Decidable.or_iff_not_imp_left.mpr fun present =>
        Decidable.byContradiction fun other => isStep ⟨present, other⟩
      obtain ⟨rfl, rfl⟩ := Place.mk.inj (eq_of_walk_stay stays stepped)
      exact inductionHypothesis onward

end Steps

section Growing

/-- A location is passed on the way along a path. -/
def OnWay (files : FileSystem) (path : String) (location : Location) : Prop :=
  ∃ count, files.destination (files.startOf path) ((steps path).take count) = .ok location

/-- What is passed on the way is still passed while the directories and links stay. -/
theorem OnWay.keeps (onWay : files.OnWay path location) (keeps : files.Keeps later) :
    later.OnWay path location := by
  obtain ⟨count, led⟩ := onWay
  obtain ⟨left, walked⟩ := destination_ok_iff.mp led
  refine ⟨count, destination_ok_iff.mpr ⟨left, ?_⟩⟩
  rw [keeps.startOf]
  exact keeps.walk walked

/-- What is passed on the way along a beginning is passed along the whole path. -/
theorem OnWay.begins (onWay : files.OnWay goal location) (begins : Begins goal path) :
    files.OnWay path location := by
  obtain ⟨count, walked⟩ := onWay
  obtain ⟨first, same⟩ := begins.steps
  rw [begins.start, same, List.take_take] at walked
  exact ⟨_, walked⟩

/-- A new file or directory is put at the end of its path. -/
theorem onWay_of_locateNew (led : files.locateNew path = .ok location) :
    files.OnWay path location := by
  obtain ⟨-, -, -, walked⟩ := locateNames_iff.mp led
  obtain ⟨left, walked⟩ := destination_ok_iff.mp walked
  obtain ⟨count, parts⟩ := withoutLastSlashes_append (names path)
  have same : steps path =
      (withoutLastSlashes (names path)).filter fun name => name ≠ "" ∧ name ≠ "." :=
    calc steps path = (withoutLastSlashes (names path) ++ List.replicate count "").filter _ := by
          rw [← parts, steps]
      _ = _ := by simp
  refine ⟨(steps path).length, destination_ok_iff.mpr ⟨left, ?_⟩⟩
  rw [List.take_length, same]
  exact walk_steps walked

/-- A name that is free is put at the end of its path. -/
theorem locateNew_of_locateEntry
    (led : files.locateEntry path (withoutLastSlashes (names path)) = .ok location)
    (unlinked : files.link? location = none) : files.locateNew path = .ok location := by
  obtain ⟨noNul, present, short, entered⟩ := locateEntry_iff.mp led
  exact locateNames_iff.mpr ⟨noNul, present, short, destination_of_entry entered unlinked⟩

/-- A file system has what another one has, and where that has nothing, nothing or a directory on
the way along a path. -/
structure GrowsAlong (files later : FileSystem) (path : String) : Prop where
  start : later.start = files.start
  nodes : ∀ location, later.node? location = files.node? location ∨
    (files.node? location = none ∧ later.node? location = some .directory ∧
      later.OnWay path location)

/-- What grows along a path has grown. -/
theorem GrowsAlong.grows (along : files.GrowsAlong later path) : files.Grows later :=
  ⟨along.start, fun location => (along.nodes location).imp_right fun added => ⟨added.1, added.2.1⟩⟩

/-- What does not grow stays the same. -/
theorem GrowsAlong.refl (files : FileSystem) (path : String) : files.GrowsAlong files path :=
  ⟨rfl, fun _ => .inl rfl⟩

/-- What grows twice along a path has grown along it. -/
theorem GrowsAlong.trans {last : FileSystem} (first : files.GrowsAlong later path)
    (second : later.GrowsAlong last path) : files.GrowsAlong last path := by
  refine ⟨second.start.trans first.start, fun location => ?_⟩
  rcases second.nodes location with same | ⟨none, there, onWay⟩
  · rw [same]
    refine (first.nodes location).imp_right ?_
    rintro ⟨none, there, onWay⟩
    exact ⟨none, there, onWay.keeps second.grows.keeps⟩
  · rcases first.nodes location with before | ⟨-, made, -⟩
    · exact .inr ⟨before ▸ none, there, onWay⟩
    · rw [made] at none
      cases none

/-- A new directory is put where nothing was, at the end of its path. -/
theorem growsAlong_createDirectory {created : FileSystem} (begins : Begins goal path)
    (done : files.createDirectory goal = .ok created) : files.GrowsAlong created path := by
  obtain ⟨location, led, made⟩ := ok_of_bind done
  split at made
  · cases made
  · next none =>
    cases made
    have unlinked : files.link? location = Option.none := by rw [link?, none]
    have onWay := (onWay_of_locateNew (locateNew_of_locateEntry led unlinked)).begins begins
    have below : location ≠ [] := by
      rintro rfl
      rw [node?_root] at none
      cases none
    have nodes := node?_set files below .directory
    have grows : files.Grows ⟨files.nodes.set location .directory, files.start⟩ := by
      refine ⟨rfl, fun other => ?_⟩
      rw [nodes]
      split
      · next same => exact .inr ⟨same ▸ none, rfl⟩
      · exact .inl rfl
    refine ⟨rfl, fun other => ?_⟩
    rw [nodes]
    split
    · next same => exact .inr ⟨same ▸ none, rfl, same ▸ onWay.keeps grows.keeps⟩
    · exact .inl rfl

/-- Directories are only added on the way when a path is made sure of. -/
theorem growsAlong_createUnlessThere (files : FileSystem) (begins : Begins goal path) :
    files.GrowsAlong (files.createUnlessThere goal).2 path := by
  unfold createUnlessThere
  split
  · next created done => exact growsAlong_createDirectory begins done
  · exact .refl files path

/-- Directories are only added along a path. -/
theorem growsAlong_createAlong (files : FileSystem) (count : Nat) (begins : Begins goal path) :
    files.GrowsAlong (files.createAlong path count goal).2 path := by
  induction count generalizing goal with
  | zero => exact growsAlong_createUnlessThere files begins
  | succ count inductionHypothesis =>
    have before := inductionHypothesis (begins_upTo path (count + 1))
    rw [createAlong]
    split
    · split
      · next prepared along =>
        rw [along] at before
        exact before.trans (growsAlong_createUnlessThere prepared begins)
      · next fault prepared along =>
        rw [along] at before
        exact before
    · exact growsAlong_createUnlessThere files begins

/-- Directories are only added on the way when a directory is created with those on the way to
it. -/
theorem growsAlong_createDirectories (files : FileSystem) (path : String) :
    files.GrowsAlong (files.createDirectories path).2 path := by
  unfold createDirectories
  split
  · exact .refl files path
  · exact growsAlong_createAlong files _ (.refl path)

/-- What is there after directories were created has grown along the way, whatever came of it. -/
theorem growsAlong_of_created {outcome : Except FileFault Unit}
    (created : files.createDirectories path = (outcome, later)) : files.GrowsAlong later path := by
  have grows := growsAlong_createDirectories files path
  rwa [created] at grows

/-- A file system grows when a directory is created with those on the way to it. -/
theorem grows_createDirectories (files : FileSystem) (path : String) :
    files.Grows (files.createDirectories path).2 :=
  (growsAlong_createDirectories files path).grows

end Growing

end GatedResolver.FileSystem
