import GatedResolver.Proofs.Files.Creation

/-!
# What files hold

A file that was written is read back, and stays as it is when directories are created and when
other files are written. Two names in one directory are those of different files, unless one of
them is that of a link (`Unlinked`).
-/

namespace GatedResolver.FileSystem

variable {files later : FileSystem} {directory name other : String} {content held : Bytes}

/-- A path holds content if it leads to a file with that content. -/
theorem read_iff {path : String} : files.read path = .ok content ↔
    ∃ location, files.locate path = .ok location ∧ files.node? location = some (.file content) := by
  constructor
  · intro read
    obtain ⟨location, led, found⟩ := ok_of_bind read
    refine ⟨location, led, ?_⟩
    split at found
    · next there =>
      cases found
      exact there
    all_goals cases found
  · rintro ⟨location, led, there⟩
    rw [read, led]
    simp [bind, Except.bind, there, pure, Except.pure]

/-- Files stay as they are when directories are created. -/
theorem Grows.read (grows : files.Grows later) {path : String}
    (holds : files.read path = .ok content) : later.read path = .ok content := by
  obtain ⟨location, led, there⟩ := read_iff.mp holds
  exact read_iff.mpr ⟨location, grows.keeps.locateNames led, grows.file there⟩

/-- Where a path leads to nothing after directories were created, it did so before. -/
theorem Grows.read_notFound (grows : files.Grows later) {path : String} {location : Location}
    (led : later.locate path = .ok location) (none : later.node? location = none) :
    files.read path = .error .notFound := by
  obtain ⟨noNul, present, short, walked⟩ := locateNames_iff.mp led
  rw [grows.keeps.startOf] at walked
  obtain ⟨left, walked⟩ := destination_ok_iff.mp walked
  have located : files.locate path =
      (files.walk linkLimit (files.startOf path) (names path)).map Place.location := by
    simp [locate, locateNames, locateBy, destination, noNul, present, Nat.not_le.mpr short]
  rw [FileSystem.read, located]
  rcases grows.walk walked with same | lost
  · have nothing : files.node? location = Option.none := by
      rcases grows.nodes location with same | ⟨before, -⟩
      · rw [← same, none]
      · exact before
    rw [same]
    simp [Except.map, bind, Except.bind, nothing, throw, throwThe, MonadExceptOf.throw]
  · rw [lost]
    rfl

/-- A path that is too long leads nowhere. -/
theorem read_of_longPath {path : String} (noNul : '\x00' ∉ path.toList)
    (long : pathLimit ≤ path.utf8ByteSize) : files.read path = .error .nameTooLong := by
  have present : path.isEmpty = false := by
    cases empty : path.isEmpty with
    | false => rfl
    | true =>
      obtain rfl : path = "" := by simpa using empty
      cases Nat.le_zero.mp long
  have led : files.locate path = .error .nameTooLong := by
    simp [locate, locateNames, locateBy, noNul, present, long]
  rw [read, led]
  rfl

section AnyLength

variable (noNul : '\x00' ∉ name.toList) (noSlash : '/' ∉ name.toList)
  (step : name ≠ "" ∧ name ≠ "." ∧ name ≠ "..")
  (room : (pathIn directory name).utf8ByteSize < pathLimit) {here : Location}
include noNul noSlash step room

/-- In a directory that is there, a name that is too long leads nowhere. -/
theorem read_of_longName (leads : files.Leads directory here)
    (long : nameLimit < name.utf8ByteSize) :
    files.read (pathIn directory name) = .error .nameTooLong := by
  obtain ⟨noBlank, noDot, noDots⟩ := step
  obtain ⟨links, along⟩ := destination_ok_iff.mp leads.walk
  have last : files.walk links here [name] = .error .nameTooLong := by
    rw [walk_cons, enter, leads.there]
    simp [stepFrom, noBlank, noDot, noDots, long, Except.bind]
  have led : files.locate (pathIn directory name) = .error .nameTooLong := by
    rw [locate_pathIn leads.noNul noNul noSlash noBlank room, along]
    simp only [Except.bind, last]
    rfl
  rw [read, led]
  rfl

/-- In a directory that is not there yet, nothing is found under a name of any length. -/
theorem Grows.read_of_noDirectory (grows : files.Grows later)
    (leads : later.Leads directory here) (short : directory.utf8ByteSize < pathLimit)
    (noDirectory : files.isDirectory (shown directory) = false) :
    files.read (pathIn directory name) = .error .notFound := by
  obtain ⟨links, walked⟩ := destination_ok_iff.mp leads.walk
  rw [grows.keeps.startOf] at walked
  have led : files.locate (pathIn directory name) = .error .notFound := by
    rw [locate_pathIn leads.noNul noNul noSlash step.1 room]
    rcases grows.walk walked with along | lost
    · have nothing : files.node? here = none := by
        rcases grows.nodes here with same | ⟨nothing, -⟩
        · have isLed : files.Leads directory here :=
            ⟨leads.noNul, destination_ok_iff.mpr ⟨links, along⟩, same ▸ leads.there⟩
          rw [isDirectory_of_leads isLed short] at noDirectory
          cases noDirectory
        · exact nothing
      rw [along]
      simp only [Except.bind, walk_cons, enter, nothing]
      rfl
    · rw [lost]
      rfl
  rw [FileSystem.read, led]
  rfl

end AnyLength

/-- A path that leads somewhere is short enough. -/
theorem room_of_locate {path : String} {location : Location}
    (led : files.locate path = .ok location) : path.utf8ByteSize < pathLimit :=
  (locateNames_iff.mp led).2.2.1

/-- A file is written where the path of its name leads. -/
theorem write_located (noSlash : '/' ∉ name.toList) (present : name ≠ "") {written : FileSystem}
    (done : files.write (pathIn directory name) content = .ok written) :
    ∃ location, files.locate (pathIn directory name) = .ok location ∧
      ∀ other, written.node? other =
        if other = location then some (.file content) else files.node? other := by
  obtain ⟨location, led, -, -, -, nodes⟩ := write_ok done
  rw [locateNew_pathIn noSlash present] at led
  exact ⟨location, led, nodes⟩

/-- A file is only written under a name that is short. -/
theorem plain_of_write (noNul : '\x00' ∉ name.toList) (noSlash : '/' ∉ name.toList)
    (step : name ≠ "" ∧ name ≠ "." ∧ name ≠ "..") {written : FileSystem}
    (done : files.write (pathIn directory name) content = .ok written) : IsPlain name := by
  obtain ⟨location, led, -⟩ := write_located noSlash step.1 done
  exact plain_of_locate noNul noSlash step led

/-- A file that is written is read back. -/
theorem read_written (plain : IsPlain name) {written : FileSystem}
    (done : files.write (pathIn directory name) content = .ok written) :
    written.read (pathIn directory name) = .ok content := by
  obtain ⟨location, led, nodes⟩ := write_located plain.noSlash plain.step.1 done
  refine read_iff.mpr ⟨location, (keeps_write done).locateNames led, ?_⟩
  rw [nodes, if_pos rfl]

/-- Names behind locations are different if the names are. -/
theorem location_ne {here there : Location} (different : other ≠ name) :
    here ++ [other] ≠ there ++ [name] := by
  intro same
  obtain ⟨-, names⟩ := List.append_inj' same rfl
  exact different (List.cons.inj names).1

section Links

/-- In a directory, wherever it is or comes to be, a name is not that of a link. -/
def Unlinked (files : FileSystem) (directory name : String) : Prop :=
  ∀ later here, files.Grows later → later.Leads directory here →
    files.link? (here ++ [name]) = none

/-- A name in a directory that is there is not that of a link. -/
theorem Unlinked.link? (unlinked : files.Unlinked directory name) (here : Location)
    (leads : files.Leads directory here) : files.link? (here ++ [name]) = none :=
  unlinked files here (.refl files) leads

/-- When directories are created, a name does not become that of a link. -/
theorem Unlinked.grows (unlinked : files.Unlinked directory name) (grows : files.Grows later) :
    later.Unlinked directory name := by
  intro last here further leads
  rw [grows.keeps.links]
  exact unlinked last here (grows.trans further) leads

/-- In a directory that is there, a name does not become that of a link while the directories and
links stay. -/
theorem Unlinked.keeps (unlinked : files.Unlinked directory name) (keeps : files.Keeps later)
    {here : Location} (leads : files.Leads directory here) : later.Unlinked directory name := by
  intro last there further others
  obtain rfl : there = here := others.unique (further.keeps.leads (keeps.leads leads))
  rw [keeps.links]
  exact unlinked.link? there leads

/-- Without links, no name is that of a link. -/
theorem unlinked_of_noLinks (noLinks : ∀ location, files.link? location = none) :
    files.Unlinked directory name :=
  fun _ here _ _ => noLinks (here ++ [name])

/-- The path of a name in a directory leads to that name there, if it is not that of a link. -/
theorem Unlinked.locate (unlinked : files.Unlinked directory name) (noNul : '\x00' ∉ name.toList)
    (noSlash : '/' ∉ name.toList) (step : name ≠ "" ∧ name ≠ "." ∧ name ≠ "..")
    {location : Location} (led : files.locate (pathIn directory name) = .ok location) :
    ∃ here, files.Leads directory here ∧ location = here ++ [name] :=
  (locate_pathIn_iff (plain_of_locate noNul noSlash step led) (room_of_locate led)
    unlinked.link?).mp led

/-- A file that is written in a directory is put behind the location of the directory. -/
theorem write_pathIn_ok (plain : IsPlain name) (unlinked : files.Unlinked directory name)
    {written : FileSystem} (done : files.write (pathIn directory name) content = .ok written) :
    ∃ here, files.locate (pathIn directory name) = .ok (here ++ [name]) ∧
      files.Leads directory here ∧ ∀ location, written.node? location =
        if location = here ++ [name] then some (.file content) else files.node? location := by
  obtain ⟨location, led, nodes⟩ := write_located plain.noSlash plain.step.1 done
  obtain ⟨here, leads, rfl⟩ := unlinked.locate plain.noNul plain.noSlash plain.step led
  exact ⟨here, led, leads, nodes⟩

/-- A file stays as it is when another one is written. -/
theorem read_write_of_apart (noSlash : '/' ∉ name.toList) (present : name ≠ "") {path : String}
    (apart : ∀ location, files.locate (pathIn directory name) = .ok location →
      files.locate path ≠ .ok location)
    {written : FileSystem} (done : files.write (pathIn directory name) content = .ok written)
    (holds : files.read path = .ok held) : written.read path = .ok held := by
  obtain ⟨place, put, nodes⟩ := write_located noSlash present done
  obtain ⟨location, led, there⟩ := read_iff.mp holds
  refine read_iff.mpr ⟨location, (keeps_write done).locateNames led, ?_⟩
  rw [nodes, if_neg (by rintro rfl; exact apart _ put led), there]

/-- A file is written in a directory that is there, unless what has its name is a directory or a
link. -/
theorem write_of_leads (plain : IsPlain name)
    (room : (pathIn directory name).utf8ByteSize < pathLimit) {here : Location}
    (leads : files.Leads directory here) (unlinked : files.link? (here ++ [name]) = none)
    (vacant : files.node? (here ++ [name]) ≠ some .directory) (content : Bytes) :
    ∃ written, files.write (pathIn directory name) content = .ok written := by
  have led := (locate_pathIn_iff plain room fun there others => leads.unique others ▸ unlinked).mpr
    ⟨here, leads, rfl⟩
  have noSlash : (pathIn directory name).toList.getLast? ≠ some '/' := by
    have present : name.toList ≠ [] := by simpa using plain.step.1
    have last : (pathIn directory name).toList.getLast? = name.toList.getLast? := by
      unfold pathIn
      repeat' split
      all_goals simp [List.getLast?_append, List.getLast?_cons,
        List.getLast?_eq_some_getLast present]
    rw [last]
    exact fun slash => plain.noSlash (List.mem_of_getLast? slash)
  rw [write, locateNew_pathIn plain.noSlash plain.step.1, led]
  simp only [bind, Except.bind, if_neg noSlash]
  split
  · next there => exact absurd there vacant
  · next target there => rw [link?_eq_some_iff.mpr there] at unlinked; cases unlinked
  · exact ⟨_, rfl⟩

end Links

end GatedResolver.FileSystem
