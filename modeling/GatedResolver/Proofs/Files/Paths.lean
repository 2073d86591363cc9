import GatedResolver.Proofs.Files.Walks

/-!
# Paths of files in a directory

The path of a name in a directory leads to that name in the location that the path of the directory
leads to, or to what it stands for if it is that of a link. A directory that is there is not created
again.
-/

namespace GatedResolver.FileSystem

variable {files : FileSystem} {directory name : String}

section Names

/-- The names of a directory in the paths of what is in it. -/
def parentNames (directory : String) : List String :=
  if directory.isEmpty then []
  else if directory.toList.getLast? = some '/' then (names directory).dropLast
  else names directory

/-- A name in a directory is behind the names of the directory. -/
theorem names_pathIn (directory : String) (noSlash : '/' ∉ name.toList) :
    names (pathIn directory name) = parentNames directory ++ [name] := by
  have alone : Text.split '/' name.toList = [name.toList] := Text.split_of_notMem noSlash
  unfold names pathIn parentNames
  by_cases empty : directory.isEmpty
  · simp [empty, alone]
  · rw [if_neg empty, if_neg empty]
    by_cases last : directory.toList.getLast? = some '/'
    · obtain ⟨front, parts⟩ := List.getLast?_eq_some_iff.mp last
      rw [if_pos last, if_pos last, names, String.toList_append, parts, List.append_assoc,
        List.singleton_append, Text.split_append, Text.split_append, alone]
      simp
    · have slash : "/".toList = ['/'] := rfl
      rw [if_neg last, if_neg last, names, String.toList_append, String.toList_append, slash,
        List.append_assoc, List.singleton_append, Text.split_append, alone]
      simp

/-- The path of a directory has its names, and an empty one if it ends with a slash. -/
theorem names_directory (present : directory.isEmpty = false) :
    names directory = parentNames directory ∨ names directory = parentNames directory ++ [""] := by
  unfold parentNames
  rw [if_neg (by simp [present])]
  by_cases last : directory.toList.getLast? = some '/'
  · obtain ⟨front, parts⟩ := List.getLast?_eq_some_iff.mp last
    rw [if_pos last, names, parts, Text.split_append]
    simp
  · rw [if_neg last]
    exact .inl rfl

/-- The path of a name in a directory starts where the path of the directory does. -/
theorem startOf_pathIn (files : FileSystem) (directory : String) (noSlash : '/' ∉ name.toList) :
    files.startOf (pathIn directory name) = files.startOf directory := by
  have noRoot : name.toList.head? ≠ some '/' := fun first => noSlash (List.mem_of_head? first)
  unfold startOf originOf pathIn
  by_cases empty : directory.isEmpty
  · have none : directory.toList = [] := by simpa using empty
    rw [if_pos empty, if_neg noRoot, none]
    rfl
  · have some : directory.toList ≠ [] := by simpa using empty
    rw [if_neg empty]
    have first : ∀ rest : String, (directory ++ rest).toList.head? = directory.toList.head? := by
      intro rest
      obtain ⟨head, tail, parts⟩ := List.exists_cons_of_ne_nil some
      rw [String.toList_append, parts]
      rfl
    split
    · rw [first]
    · rw [String.append_assoc, first]

end Names

section Places

/-- A path leads somewhere if it may be walked and a walk from its start does. -/
theorem locateBy_iff {path : String} {lead : Location → Except FileFault Location}
    {location : Location} : files.locateBy path lead = .ok location ↔
      '\x00' ∉ path.toList ∧ path.isEmpty = false ∧ path.utf8ByteSize < pathLimit ∧
        lead (files.startOf path) = .ok location := by
  unfold locateBy
  by_cases nul : '\x00' ∈ path.toList
  · simp [nul]
  · by_cases empty : path.isEmpty
    · simp [nul, empty]
    · by_cases long : pathLimit ≤ path.utf8ByteSize
      · simp [nul, empty, long, Nat.not_lt.mpr long]
      · simp [nul, empty, long, Nat.lt_of_not_le long]

/-- A path that may be walked leads where its names lead. -/
theorem locateNames_iff {path : String} {names : List String} {location : Location} :
    files.locateNames path names = .ok location ↔
      '\x00' ∉ path.toList ∧ path.isEmpty = false ∧ path.utf8ByteSize < pathLimit ∧
        files.destination (files.startOf path) names = .ok location :=
  locateBy_iff

/-- The paths of what is in a directory go through a location, which is a directory. -/
structure Leads (files : FileSystem) (directory : String) (here : Location) : Prop where
  noNul : '\x00' ∉ directory.toList
  walk : files.destination (files.startOf directory) (parentNames directory) = .ok here
  there : files.node? here = some .directory

/-- The paths of what is in a directory go through one location. -/
theorem Leads.unique {here other : Location} (leads : files.Leads directory here)
    (others : files.Leads directory other) : here = other :=
  Except.ok.inj (leads.walk.symm.trans others.walk)

/-- The characters of the path of a name in a directory are those of the two, and a slash. -/
theorem noNul_pathIn_iff (noNul : '\x00' ∉ name.toList) :
    '\x00' ∉ (pathIn directory name).toList ↔ '\x00' ∉ directory.toList := by
  unfold pathIn
  split
  · next empty =>
    have none : directory.toList = [] := by simpa using empty
    simp [none, noNul]
  · split <;> simp [noNul]

/-- A path of a name in a directory is not empty. -/
theorem pathIn_present (present : name ≠ "") : (pathIn directory name).isEmpty = false := by
  unfold pathIn
  split
  · simpa using present
  · split <;> simp [present]

/-- The path of a name in a directory is walked along the names of the directory first. -/
theorem locate_pathIn (noNulDirectory : '\x00' ∉ directory.toList)
    (noNul : '\x00' ∉ name.toList) (noSlash : '/' ∉ name.toList) (present : name ≠ "")
    (room : (pathIn directory name).utf8ByteSize < pathLimit) :
    files.locate (pathIn directory name) =
      ((files.walk linkLimit (files.startOf directory) (parentNames directory)).bind fun place =>
        files.walk place.links place.location [name]).map Place.location := by
  have clean := (noNul_pathIn_iff noNul).mpr noNulDirectory
  rw [locate, locateNames, locateBy, if_neg (by simpa using clean), pathIn_present present,
    if_neg Bool.false_ne_true, if_neg (Nat.not_le.mpr room), names_pathIn directory noSlash,
    startOf_pathIn files directory noSlash, destination, walk_append]

/-- The path of a name in a directory ends with a walk along that name from the location of the
directory. -/
theorem walk_of_locate (noNul : '\x00' ∉ name.toList) (noSlash : '/' ∉ name.toList)
    {location : Location} (led : files.locate (pathIn directory name) = .ok location) :
    ∃ here links left, files.Leads directory here ∧
      files.walk links here [name] = .ok ⟨location, left⟩ := by
  obtain ⟨clean, -, -, walked⟩ := locateNames_iff.mp led
  rw [names_pathIn directory noSlash, startOf_pathIn files directory noSlash] at walked
  obtain ⟨left, walked⟩ := destination_ok_iff.mp walked
  rw [walk_append] at walked
  obtain ⟨⟨here, links⟩, along, last⟩ := ok_of_bind walked
  have last : files.walk links here [name] = .ok ⟨location, left⟩ := last
  have leads : files.Leads directory here := ⟨(noNul_pathIn_iff noNul).mp clean,
    destination_ok_iff.mpr ⟨links, along⟩, (entered_of_walk last).1⟩
  exact ⟨here, links, left, leads, last⟩

/-- The path of a name in a directory leads to that name behind the location of the directory,
unless it is the name of a link, and nowhere if there is no such location. -/
theorem locate_pathIn_iff (plain : IsPlain name)
    (room : (pathIn directory name).utf8ByteSize < pathLimit) {location : Location}
    (unlinked : ∀ here, files.Leads directory here → files.link? (here ++ [name]) = none) :
    files.locate (pathIn directory name) = .ok location ↔
      ∃ here, files.Leads directory here ∧ location = here ++ [name] := by
  constructor
  · intro led
    obtain ⟨here, links, left, leads, last⟩ := walk_of_locate plain.noNul plain.noSlash led
    obtain ⟨-, same⟩ := (walk_plain_iff plain (unlinked here leads)).mp last
    exact ⟨here, leads, congrArg Place.location same⟩
  · rintro ⟨here, leads, rfl⟩
    obtain ⟨links, along⟩ := destination_ok_iff.mp leads.walk
    rw [locate_pathIn leads.noNul plain.noNul plain.noSlash plain.step.1 room, along]
    simp only [Except.bind]
    rw [(walk_plain_iff plain (unlinked here leads)).mpr ⟨leads.there, rfl⟩]
    rfl

/-- A walk along a name that goes on from it is one along a short name. -/
theorem short_of_walk (step : name ≠ "" ∧ name ≠ "." ∧ name ≠ "..") {links : Nat}
    {here : Location} {place : Place} (walked : files.walk links here [name] = .ok place) :
    name.utf8ByteSize ≤ nameLimit := by
  obtain ⟨-, next, stepped, -⟩ := entered_of_walk walked
  simp only [stepFrom, step, or_self, if_false] at stepped
  split at stepped
  · cases stepped
  · next short => exact Nat.le_of_not_lt short

/-- The path of a name in a directory leads somewhere only if the name is short. -/
theorem plain_of_locate (noNul : '\x00' ∉ name.toList) (noSlash : '/' ∉ name.toList)
    (step : name ≠ "" ∧ name ≠ "." ∧ name ≠ "..") {location : Location}
    (led : files.locate (pathIn directory name) = .ok location) : IsPlain name := by
  obtain ⟨here, links, left, -, last⟩ := walk_of_locate noNul noSlash led
  exact ⟨noSlash, noNul, step, short_of_walk step last⟩

/-- The path of a name in a directory has no slash at its end. -/
theorem withoutLastSlashes_pathIn (noSlash : '/' ∉ name.toList) (present : name ≠ "") :
    withoutLastSlashes (names (pathIn directory name)) = names (pathIn directory name) := by
  rw [names_pathIn directory noSlash, withoutLastSlashes]
  simp [present]

/-- A new file in a directory is put where its path leads. -/
theorem locateNew_pathIn (noSlash : '/' ∉ name.toList) (present : name ≠ "") :
    files.locateNew (pathIn directory name) = files.locate (pathIn directory name) := by
  rw [locateNew, withoutLastSlashes_pathIn noSlash present, locate]

end Places

section Keeping

variable {later : FileSystem}

/-- A directory is found while the directories stay. -/
theorem Keeps.isDirectory (keeps : files.Keeps later) {path : String}
    (there : files.isDirectory path = true) : later.isDirectory path = true := by
  unfold FileSystem.isDirectory at there ⊢
  split at there
  · next location led =>
    have stays := keeps.directories location (by simpa [isDirectoryAt] using there)
    have leads : later.locate path = .ok location := keeps.locateNames led
    rw [leads]
    simpa [isDirectoryAt] using stays
  · cases there

/-- The paths of what is in a directory lead where they led while the directories stay. -/
theorem Keeps.leads (keeps : files.Keeps later) {here : Location}
    (leads : files.Leads directory here) : later.Leads directory here := by
  obtain ⟨left, along⟩ := destination_ok_iff.mp leads.walk
  refine ⟨leads.noNul, ?_, keeps.directories here leads.there⟩
  rw [keeps.startOf]
  exact destination_ok_iff.mpr ⟨left, keeps.walk along⟩

end Keeping

section Directories

/-- The path of a directory, where the empty path is that of the directory that relative paths
start from. -/
def shown (directory : String) : String :=
  if directory.isEmpty then "." else directory

/-- A name that stands for the directory itself leads nowhere else. -/
theorem walk_stay {name : String} (stays : name = "" ∨ name = ".") {links : Nat} {here : Location}
    (there : files.node? here = some .directory) :
    files.walk links here [name] = .ok ⟨here, links⟩ := by
  have unlinked : files.link? here = none := by rw [link?, there]
  rw [walk_cons, enter, there]
  simp only [stepFrom, if_pos stays, Except.bind, goOn, unlinked]
  exact walk_nil files links here

/-- A walk along a name that stands for the directory itself ends there. -/
theorem eq_of_walk_stay {name : String} (stays : name = "" ∨ name = ".") {links : Nat}
    {here : Location} {place : Place} (walked : files.walk links here [name] = .ok place) :
    place = ⟨here, links⟩ :=
  Except.ok.inj (walked.symm.trans (walk_stay stays (entered_of_walk walked).1))

/-- Empty names lead nowhere else. -/
theorem walk_blanks {links : Nat} {here : Location} {place : Place} (count : Nat)
    (led : files.walk links here (List.replicate count "") = .ok place) :
    place = ⟨here, links⟩ := by
  induction count with
  | zero => exact (Except.ok.inj ((walk_nil files links here).symm.trans led)).symm
  | succ count inductionHypothesis =>
    rw [List.replicate_succ, ← List.singleton_append, walk_append] at led
    obtain ⟨next, stayed, onward⟩ := ok_of_bind led
    rw [eq_of_walk_stay (.inl rfl) stayed] at onward
    exact inductionHypothesis onward

/-- Behind the names that are left there are empty ones only. -/
theorem withoutLastSlashes_append (names : List String) :
    ∃ count, names = withoutLastSlashes names ++ List.replicate count "" := by
  refine ⟨(names.reverse.takeWhile (· = "")).length, ?_⟩
  have blanks : names.reverse.takeWhile (· = "") =
      List.replicate (names.reverse.takeWhile (· = "")).length "" := by
    refine List.eq_replicate_of_mem fun name member => ?_
    simpa using List.all_eq_true.mp List.all_takeWhile name member
  calc names = (names.reverse.takeWhile (· = "") ++ names.reverse.dropWhile (· = "")).reverse := by
        rw [List.takeWhile_append_dropWhile, List.reverse_reverse]
    _ = withoutLastSlashes names ++ (names.reverse.takeWhile (· = "")).reverse := by
        rw [List.reverse_append, withoutLastSlashes]
    _ = _ := by rw [blanks, List.reverse_replicate, List.length_replicate]

/-- Empty names at the end lead nowhere else. -/
theorem destination_of_blanks {here location : Location} {names : List String} {count : Nat}
    (led : files.destination here (names ++ List.replicate count "") = .ok location) :
    files.destination here names = .ok location := by
  obtain ⟨left, walked⟩ := destination_ok_iff.mp led
  rw [walk_append] at walked
  obtain ⟨⟨next, links⟩, along, stayed⟩ := ok_of_bind walked
  obtain ⟨rfl, -⟩ := Place.mk.inj (walk_blanks count stayed)
  exact destination_ok_iff.mpr ⟨links, along⟩

/-- An empty name behind the names of a directory leads there, too. -/
theorem destination_append_blank {here location : Location} {names : List String}
    (led : files.destination here names = .ok location)
    (there : files.node? location = some .directory) :
    files.destination here (names ++ [""]) = .ok location := by
  obtain ⟨links, along⟩ := destination_ok_iff.mp led
  refine destination_ok_iff.mpr ⟨links, ?_⟩
  rw [walk_append, along]
  exact walk_stay (.inl rfl) there

/-- The last name is put at where it leads from the location that the names before it lead to. -/
theorem entry_append (here : Location) (front : List String) (name : String) :
    files.entry here (front ++ [name]) =
      (files.destination here front).bind (files.enter · name) := by
  rw [entry, List.getLast?_append, List.dropLast_concat]
  rfl

/-- What a walk along names leads to has its last name, or that is the name of a link. -/
theorem entry_of_destination {here location : Location} {names : List String}
    (led : files.destination here names = .ok location) (present : files.node? location ≠ none) :
    ∃ next, files.entry here names = .ok next ∧ files.node? next ≠ none := by
  rcases List.eq_nil_or_concat names with rfl | ⟨front, name, rfl⟩
  · obtain rfl := Except.ok.inj ((destination_nil files here).symm.trans led)
    exact ⟨here, rfl, present⟩
  · rw [List.concat_eq_append] at led ⊢
    obtain ⟨left, walked⟩ := destination_ok_iff.mp led
    rw [walk_append] at walked
    obtain ⟨⟨there, links⟩, along, last⟩ := ok_of_bind walked
    obtain ⟨isThere, next, stepped, went⟩ := entered_of_walk last
    refine ⟨next, ?_, fun nothing => ?_⟩
    · rw [entry_append, destination_ok_iff.mpr ⟨links, along⟩]
      exact enter_ok_iff.mpr ⟨isThere, stepped⟩
    · have unlinked : files.link? next = none := by rw [link?, nothing]
      simp only [goOn, unlinked, walk_nil] at went
      obtain ⟨rfl, -⟩ := Place.mk.inj (Except.ok.inj went)
      exact present nothing

/-- A walk along names leads to what has its last name, unless that is the name of a link. -/
theorem destination_of_entry {here next : Location} {names : List String}
    (led : files.entry here names = .ok next) (unlinked : files.link? next = none) :
    files.destination here names = .ok next := by
  rcases List.eq_nil_or_concat names with rfl | ⟨front, name, rfl⟩
  · obtain rfl : here = next := Except.ok.inj led
    exact destination_nil files here
  · rw [List.concat_eq_append] at led ⊢
    rw [entry_append] at led
    obtain ⟨there, along, entered⟩ := ok_of_bind led
    obtain ⟨links, walked⟩ := destination_ok_iff.mp along
    refine destination_ok_iff.mpr ⟨links, ?_⟩
    rw [walk_append, walked]
    simp only [Except.bind, walk_cons, entered, goOn, unlinked, walk_nil]

/-- A path that may be walked has its last name where its names lead to. -/
theorem locateEntry_iff {path : String} {names : List String} {location : Location} :
    files.locateEntry path names = .ok location ↔
      '\x00' ∉ path.toList ∧ path.isEmpty = false ∧ path.utf8ByteSize < pathLimit ∧
        files.entry (files.startOf path) names = .ok location :=
  locateBy_iff

/-- The name of a directory that is there is taken, also without the slashes at the end of its
path. -/
theorem locateEntry_of_isDirectory {path : String} (there : files.isDirectory path = true) :
    ∃ location, files.locateEntry path (withoutLastSlashes (names path)) = .ok location ∧
      files.node? location ≠ none := by
  unfold isDirectory at there
  split at there
  · next location led =>
    have isThere : files.node? location = some .directory := by
      simpa [isDirectoryAt] using there
    obtain ⟨noNul, present, short, walked⟩ := locateNames_iff.mp led
    obtain ⟨count, parts⟩ := withoutLastSlashes_append (names path)
    rw [parts] at walked
    obtain ⟨next, entered, taken⟩ :=
      entry_of_destination (destination_of_blanks walked) (by simp [isThere])
    exact ⟨next, locateEntry_iff.mpr ⟨noNul, present, short, entered⟩, taken⟩
  · cases there

/-- A directory that is there is not created again. -/
theorem createUnlessThere_of_isDirectory {path : String} (there : files.isDirectory path = true) :
    files.createDirectory path = .error .exists ∧
      files.createUnlessThere path = (.ok (), files) := by
  obtain ⟨location, led, taken⟩ := locateEntry_of_isDirectory there
  obtain ⟨node, isThere⟩ := Option.ne_none_iff_exists'.mp taken
  have refused : files.createDirectory path = .error .exists := by
    rw [createDirectory, led]
    simp [bind, Except.bind, isThere, throw, throwThe, MonadExceptOf.throw]
  refine ⟨refused, ?_⟩
  rw [createUnlessThere, refused]
  simp [there]

/-- A directory that is there is not created again with those on the way to it. -/
theorem createDirectories_of_isDirectory
    (there : files.isDirectory (shown directory) = true) :
    files.createDirectories directory = (.ok (), files) := by
  unfold createDirectories
  by_cases empty : directory.isEmpty
  · rw [if_pos empty]
  · rw [if_neg empty]
    rw [shown, if_neg empty] at there
    obtain ⟨refused, done⟩ := createUnlessThere_of_isDirectory there
    cases (steps directory).length - 1 with
    | zero => exact done
    | succ count =>
      rw [createAlong, refused]
      exact done

/-- The paths of what is in a directory that is there go through its location. -/
theorem leads_of_isDirectory (there : files.isDirectory (shown directory) = true) :
    ∃ here, files.Leads directory here := by
  unfold isDirectory at there
  split at there
  case h_2 => cases there
  next location led =>
  have isThere : files.node? location = some .directory := by
    simpa [isDirectoryAt] using there
  obtain ⟨noNul, -, -, walked⟩ := locateNames_iff.mp led
  cases empty : directory.isEmpty with
  | true =>
    obtain rfl : directory = "" := by simpa using empty
    have walked : files.destination files.start ["."] = .ok location := walked
    obtain ⟨left, along⟩ := destination_ok_iff.mp walked
    obtain ⟨rfl, -⟩ := Place.mk.inj (eq_of_walk_stay (.inr rfl) along)
    exact ⟨files.start, by decide, destination_nil files files.start, isThere⟩
  | false =>
    simp only [shown, empty, Bool.false_eq_true, if_false] at noNul walked
    rcases names_directory empty with same | slash
    · rw [same] at walked
      exact ⟨location, noNul, walked, isThere⟩
    · rw [slash] at walked
      exact ⟨location, noNul, @destination_of_blanks files _ _ _ 1 walked, isThere⟩

/-- A directory that the paths of what is in it go through is there. -/
theorem isDirectory_of_leads {here : Location} (leads : files.Leads directory here)
    (room : directory.utf8ByteSize < pathLimit) : files.isDirectory (shown directory) = true := by
  obtain ⟨noNul, walked, there⟩ := leads
  have isThere : files.isDirectoryAt here = true := by simp [isDirectoryAt, there]
  cases empty : directory.isEmpty with
  | true =>
    obtain rfl : directory = "" := by simpa using empty
    obtain rfl : files.start = here :=
      Except.ok.inj ((destination_nil files files.start).symm.trans walked)
    have led : files.locate "." = .ok files.start :=
      destination_ok_iff.mpr ⟨linkLimit, walk_stay (.inr rfl) there⟩
    have same : shown "" = "." := rfl
    rw [same, isDirectory, led]
    exact isThere
  | false =>
    have led : files.locate directory = .ok here := by
      refine locateNames_iff.mpr ⟨noNul, empty, room, ?_⟩
      rcases names_directory empty with same | slash
      · rw [same, walked]
      · rw [slash]
        exact destination_append_blank walked there
    rw [shown, empty, if_neg Bool.false_ne_true, isDirectory, led]
    exact isThere

end Directories

end GatedResolver.FileSystem
