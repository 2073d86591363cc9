import GatedResolver.FileSystem
import GatedResolver.Proofs.Success

/-!
# Walks along paths

A walk passes through directories and links only, so it leads where it led as long as those stay
and there are no new links (`Keeps.walk`). Creating directories only adds directories where nothing
was (`Grows`), and writing a file changes what one location holds, which was no directory and no
link. So neither moves what a path leads to, and where a walk leads after directories were created,
it led before, or it found nothing.
-/

namespace GatedResolver.FileSystem

variable {files later : FileSystem}

section Steps

variable {links : Nat} {here location next : Location} {name : String} {rest : List String}

/-- A name leads on from directories only. -/
theorem enter_ok_iff : files.enter here name = .ok next ↔
    files.node? here = some .directory ∧ stepFrom here name = .ok next := by
  unfold enter
  split
  · next none => simp [none]
  · next there => simp [there]
  · next node other there => simpa [there] using fun same => absurd same other

/-- A walk along no names stays where it is. -/
theorem walk_nil (files : FileSystem) (links : Nat) (here : Location) :
    files.walk links here [] = .ok ⟨here, links⟩ := by
  cases links <;> rfl

/-- The walk behind a name that led from `here` to `next`: it goes on from what that stands for, if
it is a link. -/
def goOn (files : FileSystem) (links : Nat) (here next : Location) (rest : List String) :
    Except FileFault Place :=
  match files.link? next with
  | none => files.walk links next rest
  | some (.file location) => files.walk links location rest
  | some (.path text) =>
    match links with
    | 0 => .error .tooManyLinks
    | less + 1 => files.walk less (originOf here text) (names text ++ rest)

/-- A walk along a name starts from a directory and goes on from where the name leads. -/
theorem walk_cons (files : FileSystem) (links : Nat) (here : Location) (name : String)
    (rest : List String) : files.walk links here (name :: rest) =
      (files.enter here name).bind (files.goOn links here · rest) := by
  cases links <;>
  · simp only [walk, walkNames]
    cases files.enter here name with
    | error fault => rfl
    | ok next =>
      cases linked : files.link? next with
      | none => simp only [Except.bind, goOn, walk, linked]
      | some target => cases target <;> simp only [Except.bind, goOn, walk, linked]

/-- A walk along a name starts from a directory, in which the name leads on. -/
theorem entered_of_walk {place : Place}
    (walked : files.walk links here (name :: rest) = .ok place) :
    files.node? here = some .directory ∧
      ∃ next, stepFrom here name = .ok next ∧ files.goOn links here next rest = .ok place := by
  rw [walk_cons] at walked
  obtain ⟨next, entered, onward⟩ := ok_of_bind walked
  obtain ⟨there, stepped⟩ := enter_ok_iff.mp entered
  exact ⟨there, next, stepped, onward⟩

/-- Walks are told apart by the links that they may still follow and then by their names: what
holds of the rest of a walk and of all walks through fewer links holds of the walk. -/
theorem walk_induction {motive : Nat → Location → List String → Prop}
    (nil : ∀ links here, motive links here [])
    (cons : ∀ links here name rest, (∀ next, motive links next rest) →
      (∀ less < links, ∀ next names, motive less next names) → motive links here (name :: rest))
    (links : Nat) (here : Location) (names : List String) : motive links here names := by
  induction links using Nat.strongRecOn generalizing here names with
  | ind links fewer =>
    induction names generalizing here with
    | nil => exact nil links here
    | cons name rest shorter =>
      exact cons links here name rest shorter fun less small next names =>
        fewer less small next names

/-- Two walks that go on behind one name go on alike, if the name stands for the same link in both
file systems: what holds of the rests of the two walks, and of all walks through fewer links that
end with these rests, holds of the two walks. -/
theorem goOn_alike {motive : Except FileFault Place → Except FileFault Place → Prop}
    {others : List String} (same : later.link? next = files.link? next)
    (direct : ∀ location,
      motive (files.walk links location rest) (later.walk links location others))
    (through : ∀ less < links, ∀ location names, motive
      (files.walk less location (names ++ rest)) (later.walk less location (names ++ others)))
    (stopped : motive (.error .tooManyLinks) (.error .tooManyLinks)) :
    motive (files.goOn links here next rest) (later.goOn links here next others) := by
  unfold goOn
  rw [same]
  cases files.link? next with
  | none => exact direct next
  | some target =>
    cases target with
    | file location => exact direct location
    | path text =>
      cases links with
      | zero => exact stopped
      | succ less => exact through less (Nat.lt_succ_self less) (originOf here text) (names text)

/-- A walk along two rows of names goes along the first and then along the second. -/
theorem walk_append (files : FileSystem) (links : Nat) (here : Location)
    (front back : List String) : files.walk links here (front ++ back) =
      (files.walk links here front).bind fun place =>
        files.walk place.links place.location back := by
  induction links, here, front using walk_induction with
  | nil links here => rw [walk_nil]; rfl
  | cons links here name rest onward through =>
    rw [List.cons_append, walk_cons, walk_cons]
    cases files.enter here name with
    | error fault => rfl
    | ok next =>
      refine goOn_alike (motive := fun whole first => whole = first.bind fun place =>
        files.walk place.links place.location back) rfl onward ?_ rfl
      intro less small location names
      rw [← List.append_assoc]
      exact through less small location (names ++ rest)

/-- A name that stands for a step to a file or directory of that name. -/
structure IsPlain (name : String) : Prop where
  noSlash : '/' ∉ name.toList
  noNul : '\x00' ∉ name.toList
  step : name ≠ "" ∧ name ≠ "." ∧ name ≠ ".."
  short : name.utf8ByteSize ≤ nameLimit

/-- A plain name leads to what has that name. -/
theorem IsPlain.stepFrom (plain : IsPlain name) (here : Location) :
    stepFrom here name = .ok (here ++ [name]) := by
  obtain ⟨noBlank, noDot, noDots⟩ := plain.step
  simp [FileSystem.stepFrom, noBlank, noDot, noDots, Nat.not_lt.mpr plain.short]

/-- A plain name that is not that of a link leads from a directory to what has that name in it, and
from nothing else. -/
theorem walk_plain_iff {place : Place} (plain : IsPlain name)
    (unlinked : files.link? (here ++ [name]) = none) :
    files.walk links here [name] = .ok place ↔
      files.node? here = some .directory ∧ place = ⟨here ++ [name], links⟩ := by
  rw [walk_cons]
  unfold enter
  split
  · next none => simp [none, Except.bind]
  · next there =>
    rw [plain.stepFrom]
    simp [there, Except.bind, goOn, unlinked, walk_nil, eq_comm]
  · next node other there => simpa [there, Except.bind] using fun same => absurd same other

/-- A walk leads to a location if it ends there. -/
theorem destination_ok_iff {names : List String} : files.destination here names = .ok location ↔
    ∃ left, files.walk linkLimit here names = .ok ⟨location, left⟩ := by
  unfold destination
  cases files.walk linkLimit here names with
  | error fault => simp [Except.map]
  | ok place =>
    obtain ⟨other, left⟩ := place
    simp [Except.map]

/-- No names lead nowhere else. -/
theorem destination_nil (files : FileSystem) (here : Location) :
    files.destination here [] = .ok here :=
  destination_ok_iff.mpr ⟨linkLimit, walk_nil files linkLimit here⟩

end Steps

section Keeping

variable {links : Nat} {here location : Location} {names : List String} {place : Place}

/-- A file system has every directory and every link that another one has, and no other links. -/
structure Keeps (files later : FileSystem) : Prop where
  start : later.start = files.start
  directories : ∀ location, files.node? location = some .directory →
    later.node? location = some .directory
  links : ∀ location, later.link? location = files.link? location

/-- A walk leads where it led while the directories and links stay. -/
theorem Keeps.walk (keeps : files.Keeps later) (led : files.walk links here names = .ok place) :
    later.walk links here names = .ok place := by
  induction links, here, names using walk_induction with
  | nil links here => rwa [walk_nil] at led ⊢
  | cons links here name rest onward through =>
    obtain ⟨there, next, stepped, went⟩ := entered_of_walk led
    rw [walk_cons, enter_ok_iff.mpr ⟨keeps.directories here there, stepped⟩]
    exact goOn_alike (motive := fun before after => before = .ok place → after = .ok place)
      (keeps.links next) onward (fun less small _ _ => through less small _ _) id went

/-- The paths start where they started. -/
theorem Keeps.startOf (keeps : files.Keeps later) (path : String) :
    later.startOf path = files.startOf path := by
  rw [FileSystem.startOf, FileSystem.startOf, keeps.start]

/-- The names of a path lead where they led while the directories and links stay. -/
theorem Keeps.locateNames (keeps : files.Keeps later) {path : String}
    (led : files.locateNames path names = .ok location) :
    later.locateNames path names = .ok location := by
  unfold FileSystem.locateNames locateBy at led ⊢
  repeat' split at led
  all_goals first | cases led | skip
  next noNul some short =>
    rw [if_neg noNul, if_neg some, if_neg short, keeps.startOf]
    obtain ⟨left, walked⟩ := destination_ok_iff.mp led
    exact destination_ok_iff.mpr ⟨left, keeps.walk walked⟩

/-- A file system has what another one has, and where that has nothing, nothing or a directory. -/
structure Grows (files later : FileSystem) : Prop where
  start : later.start = files.start
  nodes : ∀ location, later.node? location = files.node? location ∨
    (files.node? location = none ∧ later.node? location = some .directory)

/-- What has grown keeps its directories and links. -/
theorem Grows.keeps (grows : files.Grows later) : files.Keeps later := by
  refine ⟨grows.start, fun location there => ?_, fun location => ?_⟩
  · rcases grows.nodes location with same | ⟨none, -⟩
    · rw [same, there]
    · rw [there] at none
      cases none
  · unfold link?
    rcases grows.nodes location with same | ⟨none, made⟩
    · rw [same]
    · rw [none, made]

/-- What has grown keeps its files. -/
theorem Grows.file (grows : files.Grows later) {content : Bytes}
    (there : files.node? location = some (.file content)) :
    later.node? location = some (.file content) := by
  rcases grows.nodes location with same | ⟨none, -⟩
  · rw [same, there]
  · rw [there] at none
    cases none

/-- What does not grow stays the same. -/
theorem Grows.refl (files : FileSystem) : files.Grows files :=
  ⟨rfl, fun _ => .inl rfl⟩

/-- What grows twice has grown. -/
theorem Grows.trans {last : FileSystem} (first : files.Grows later) (second : later.Grows last) :
    files.Grows last := by
  refine ⟨second.start.trans first.start, fun location => ?_⟩
  rcases second.nodes location with same | ⟨none, there⟩
  · rw [same]
    exact first.nodes location
  · rcases first.nodes location with before | ⟨-, made⟩
    · exact .inr ⟨before ▸ none, there⟩
    · rw [made] at none
      cases none

/-- Where a walk leads after directories were created, it led before, or it found nothing. -/
theorem Grows.walk (grows : files.Grows later) (led : later.walk links here names = .ok place) :
    files.walk links here names = .ok place ∨
      files.walk links here names = .error .notFound := by
  induction links, here, names using walk_induction with
  | nil links here =>
    rw [walk_nil] at led ⊢
    exact .inl led
  | cons links here name rest onward through =>
    obtain ⟨there, next, stepped, went⟩ := entered_of_walk led
    rw [walk_cons]
    rcases grows.nodes here with same | ⟨none, -⟩
    · rw [enter_ok_iff.mpr ⟨same ▸ there, stepped⟩]
      exact goOn_alike (motive := fun after before => after = .ok place →
          before = .ok place ∨ before = .error .notFound)
        (grows.keeps.links next).symm onward (fun less small _ _ => through less small _ _)
        nofun went
    · simp [enter, none, Except.bind]

end Keeping

section Operations

/-- What a location holds after another one was given something. -/
theorem node?_set (files : FileSystem) {location : Location} (below : location ≠ []) (node : Node)
    (other : Location) : node? ⟨files.nodes.set location node, files.start⟩ other =
      if other = location then some node else files.node? other := by
  unfold node?
  by_cases root : other = []
  · rw [if_pos root, if_pos root, if_neg (root ▸ below.symm)]
  · rw [if_neg root, if_neg root, Table.find?_set]

/-- Every file system has a root. -/
theorem node?_root (files : FileSystem) : files.node? [] = some .directory :=
  if_pos rfl

/-- A location is that of a link if it holds one. -/
theorem link?_eq_some_iff {location : Location} {target : LinkTarget} :
    files.link? location = some target ↔ files.node? location = some (.link target) := by
  unfold link?
  split
  · next held => simp [held]
  · next other =>
    refine ⟨nofun, fun held => absurd held (other target)⟩

/-- A file is written where no directory and no link is, and nothing else changes. -/
theorem write_ok {path : String} {content : Bytes} {written : FileSystem}
    (done : files.write path content = .ok written) :
    ∃ location, files.locateNew path = .ok location ∧ files.node? location ≠ some .directory ∧
      files.link? location = none ∧ written.start = files.start ∧
      ∀ other, written.node? other =
        if other = location then some (.file content) else files.node? other := by
  obtain ⟨location, led, put⟩ := ok_of_bind done
  dsimp only at put
  split at put
  · cases put
  split at put
  · cases put
  · cases put
  · next noDirectory noLink =>
    cases put
    have below : location ≠ [] := by
      rintro rfl
      exact noDirectory (node?_root files)
    refine ⟨location, led, noDirectory, ?_, rfl, node?_set files below _⟩
    cases linked : files.link? location with
    | none => rfl
    | some target => exact absurd (link?_eq_some_iff.mp linked) (noLink target)

/-- Directories and links stay when a file is written. -/
theorem keeps_write {path : String} {content : Bytes} {written : FileSystem}
    (done : files.write path content = .ok written) : files.Keeps written := by
  obtain ⟨location, -, noDirectory, noLink, start, nodes⟩ := write_ok done
  refine ⟨start, fun other there => ?_, fun other => ?_⟩
  · rw [nodes, if_neg (by rintro rfl; exact noDirectory there), there]
  · by_cases same : other = location
    · rw [same, noLink]
      simp [link?, nodes]
    · simp [link?, nodes, same]

end Operations

end GatedResolver.FileSystem
