import GatedResolver.Table
import GatedResolver.Text.Bytes
import GatedResolver.Text.Decimal
import GatedResolver.Text.Split

/-!
# Files, directories and links

A file system is a table of locations. A location is the list of names on the way from
the root, without `.` and `..`; the root is always a directory. A path is a text that is
walked name by name, and every name but the last has to lead to a directory.

A link stands for something else: a symbolic one for what a path leads to, a hard one for a
file that has its place elsewhere. A walk that comes to a link goes on from what the link
stands for, so files are read and written through links. Only what makes or removes a name
acts on the link itself.
-/

namespace GatedResolver

/-- The names on the way from the root. -/
abbrev Location := List String

/-- What a link stands for. -/
inductive LinkTarget where
  /-- A symbolic link stands for what a path leads to from the directory of the link. -/
  | path (text : String)
  /-- A hard link is another name of the file at a location. -/
  | file (location : Location)
deriving DecidableEq

/-- What a location holds. -/
inductive Node where
  | file (content : Bytes)
  | directory
  | link (target : LinkTarget)
deriving DecidableEq

/-- Why an operation on files failed. -/
inductive FileFault where
  | notFound
  | exists
  | notDirectory
  | isDirectory
  | notEmpty
  | nameTooLong
  | tooManyLinks
  | nulInPath
deriving DecidableEq

/-- The number and the words of a fault of the file system. -/
def FileFault.message : FileFault → String
  | .notFound => "No such file or directory (os error 2)"
  | .exists => "File exists (os error 17)"
  | .notDirectory => "Not a directory (os error 20)"
  | .isDirectory => "Is a directory (os error 21)"
  | .nameTooLong => "File name too long (os error 36)"
  | .notEmpty => "Directory not empty (os error 39)"
  | .tooManyLinks => "Too many levels of symbolic links (os error 40)"
  | .nulInPath => "file name contained an unexpected NUL byte"

/-- Files, directories and links, and the location that relative paths start from. -/
structure FileSystem where
  nodes : Table Location Node
  start : Location
deriving DecidableEq

namespace FileSystem

/-- A file system without files. -/
def empty : FileSystem := ⟨.empty, []⟩

/-- The longest name of a file or directory, in bytes. -/
def nameLimit : Nat := 255

/-- The first length, in bytes, that a whole path may not have. -/
def pathLimit : Nat := 4096

/-- How many symbolic links a walk follows. -/
def linkLimit : Nat := 40

/-- What a location holds. -/
def node? (files : FileSystem) (location : Location) : Option Node :=
  if location = [] then some .directory else files.nodes.find? location

/-- Whether a location is a directory. -/
def isDirectoryAt (files : FileSystem) (location : Location) : Bool :=
  files.node? location == some .directory

/-- The names of a path. -/
def names (path : String) : List String :=
  (Text.split '/' path.toList).map String.ofList

/-- What a location stands for, if it is that of a link. -/
def link? (files : FileSystem) (location : Location) : Option LinkTarget :=
  match files.node? location with
  | some (.link target) => some target
  | _ => none

/-- Where a name leads from a directory. -/
def stepFrom (here : Location) (name : String) : Except FileFault Location :=
  if name = "" ∨ name = "." then .ok here
  else if name = ".." then .ok here.dropLast
  else if nameLimit < name.utf8ByteSize then .error .nameTooLong
  else .ok (here ++ [name])

/-- Where a name leads from a location, which has to be a directory. -/
def enter (files : FileSystem) (here : Location) (name : String) : Except FileFault Location :=
  match files.node? here with
  | none => .error .notFound
  | some .directory => stepFrom here name
  | some _ => .error .notDirectory

/-- Where the walk along a path starts that is not walked from the root. -/
def originOf (here : Location) (path : String) : Location :=
  if path.toList.head? = some '/' then [] else here

/-- Where a walk has come to, and how many symbolic links it may still follow. -/
structure Place where
  location : Location
  links : Nat
deriving DecidableEq

/-- Walk from a location along names. At a hard link the walk goes on from its file, and at a
symbolic one `follow` goes on along its path, with the rest of the names behind it. -/
def walkNames (files : FileSystem) (follow : Location → List String → Except FileFault Place)
    (links : Nat) (here : Location) : List String → Except FileFault Place
  | [] => .ok ⟨here, links⟩
  | name :: rest =>
    match files.enter here name with
    | .error fault => .error fault
    | .ok next =>
      match files.link? next with
      | none => walkNames files follow links next rest
      | some (.file location) => walkNames files follow links location rest
      | some (.path text) => follow (originOf here text) (names text ++ rest)

/-- Walk from a location along names, through `links` symbolic links at most. The last name
need not exist. -/
def walk (files : FileSystem) : (links : Nat) → (here : Location) → (names : List String) →
    Except FileFault Place
  | 0 => walkNames files (fun _ _ => .error .tooManyLinks) 0
  | links + 1 => walkNames files (walk files links) (links + 1)

/-- Where a walk along names leads. -/
def destination (files : FileSystem) (here : Location) (names : List String) :
    Except FileFault Location :=
  (files.walk linkLimit here names).map Place.location

/-- Where a walk along names leads if its last name is not followed, be it that of a link. -/
def entry (files : FileSystem) (here : Location) (names : List String) :
    Except FileFault Location :=
  match names.getLast? with
  | none => .ok here
  | some name => do files.enter (← files.destination here names.dropLast) name

/-- Where the walk along a path starts. -/
def startOf (files : FileSystem) (path : String) : Location :=
  originOf files.start path

/-- Where a walk leads from the start of a path, if the path may be walked. -/
def locateBy (files : FileSystem) (path : String) (lead : Location → Except FileFault Location) :
    Except FileFault Location :=
  if path.toList.contains '\x00' then .error .nulInPath
  else if path.isEmpty then .error .notFound
  else if pathLimit ≤ path.utf8ByteSize then .error .nameTooLong
  else lead (files.startOf path)

/-- Where a walk along names leads, if they are the names of a path that may be walked. -/
def locateNames (files : FileSystem) (path : String) (names : List String) :
    Except FileFault Location :=
  files.locateBy path fun here => files.destination here names

/-- The location that a path leads to. What stands before a slash at its end has to be a
directory. -/
def locate (files : FileSystem) (path : String) : Except FileFault Location :=
  files.locateNames path (names path)

/-- Names without the empty ones behind the last slashes. -/
def withoutLastSlashes (names : List String) : List String :=
  (names.reverse.dropWhile (· = "")).reverse

/-- The location that a path leads to which may have slashes at its end for no reason. -/
def locateNew (files : FileSystem) (path : String) : Except FileFault Location :=
  files.locateNames path (withoutLastSlashes (names path))

/-- The location that the last name of a path is put at, even if it is that of a link. -/
def locateEntry (files : FileSystem) (path : String) (names : List String) :
    Except FileFault Location :=
  files.locateBy path fun here => files.entry here names

-- A walk only ends at a link where a hard link stands for no file but for another link. What
-- works on such a location fails.

/-- The content of a file. -/
def read (files : FileSystem) (path : String) : Except FileFault Bytes := do
  match files.node? (← files.locate path) with
  | some (.file content) => return content
  | some .directory => throw .isDirectory
  | some (.link _) => throw .tooManyLinks
  | none => throw .notFound

/-- Put content into a file, which is created if its directory exists. A path with a slash
at its end can only be that of a directory. -/
def write (files : FileSystem) (path : String) (content : Bytes) :
    Except FileFault FileSystem := do
  let location ← files.locateNew path
  if path.toList.getLast? = some '/' then throw .isDirectory
  match files.node? location with
  | some .directory => throw .isDirectory
  | some (.link _) => throw .tooManyLinks
  | _ => return ⟨files.nodes.set location (.file content), files.start⟩

/-- Create a directory inside of one that exists. -/
def createDirectory (files : FileSystem) (path : String) : Except FileFault FileSystem := do
  let location ← files.locateEntry path (withoutLastSlashes (names path))
  match files.node? location with
  | some _ => throw .exists
  | none => return ⟨files.nodes.set location .directory, files.start⟩

/-- Whether a path leads to a directory. -/
def isDirectory (files : FileSystem) (path : String) : Bool :=
  match files.locate path with
  | .ok location => files.isDirectoryAt location
  | .error _ => false

/-- The names of a path that are steps: neither empty nor the directory itself. -/
def steps (path : String) : List String :=
  (names path).filter fun name => name ≠ "" ∧ name ≠ "."

/-- The path of the first `count` steps of a path. -/
def upTo (path : String) (count : Nat) : String :=
  (if path.toList.head? = some '/' then "/" else "") ++
    "/".intercalate ((steps path).take count)

/-- The path of the directory that the last step of a path starts from. -/
def directoryOf (path : String) : String :=
  upTo path ((steps path).length - 1)

/-- Create a directory unless it exists, and say whether it is there now. -/
def createUnlessThere (files : FileSystem) (path : String) : Except FileFault Unit × FileSystem :=
  match files.createDirectory path with
  | .ok created => (.ok (), created)
  | .error fault => (if files.isDirectory path then .ok () else .error fault, files)

/-- Create the directory `goal`, and where it lacks a directory on the way, those along the
first `count` steps of `path` before it. Directories that were created before a failure
stay. -/
def createAlong (files : FileSystem) (path : String) : (count : Nat) → (goal : String) →
    Except FileFault Unit × FileSystem
  | 0, goal => files.createUnlessThere goal
  | count + 1, goal =>
    match files.createDirectory goal with
    | .error .notFound =>
      match createAlong files path count (upTo path (count + 1)) with
      | (.ok (), prepared) => prepared.createUnlessThere goal
      | (.error fault, prepared) => (.error fault, prepared)
    | _ => files.createUnlessThere goal

/-- Create a directory and the missing ones on the way to it. The empty path is that of a
directory that is always there. -/
def createDirectories (files : FileSystem) (path : String) :
    Except FileFault Unit × FileSystem :=
  if path.isEmpty then (.ok (), files)
  else createAlong files path ((steps path).length - 1) path

/-- The other names of the file at a location. -/
def hardLinks (files : FileSystem) (location : Location) : List Location :=
  (files.nodes.entries.filter fun entry => entry.2 = .link (.file location)).map Prod.fst

/-- What is left without the name of a file at its location: the first of its other names takes
its place. -/
def withoutName (files : FileSystem) (location : Location) (content : Bytes) :
    Table Location Node :=
  match files.hardLinks location with
  | [] => files.nodes.erase location
  | heir :: others =>
    others.foldl (fun nodes other => nodes.set other (.link (.file heir)))
      ((files.nodes.erase location).set heir (.file content))

/-- Remove a file or a link. A file that has other names stays under those. -/
def removeFile (files : FileSystem) (path : String) : Except FileFault FileSystem := do
  let location ← files.locateEntry path (names path)
  match files.node? location with
  | some (.file content) => return ⟨files.withoutName location content, files.start⟩
  | some (.link _) => return ⟨files.nodes.erase location, files.start⟩
  | some .directory => throw .isDirectory
  | none => throw .notFound

/-- The names in a directory. -/
def list (files : FileSystem) (path : String) : Except FileFault (List String) := do
  let location ← files.locate path
  match files.node? location with
  | none => throw .notFound
  | some (.file _) | some (.link _) => throw .notDirectory
  | some .directory =>
    return files.nodes.entries.filterMap fun entry =>
      match entry.1.getLast? with
      | some name => if entry.1.dropLast = location then some name else none
      | none => none

/-- Write a file after creating the missing directories on the way to it. -/
def place (files : FileSystem) (path : String) (content : Bytes) :
    Except FileFault Unit × FileSystem :=
  match files.createDirectories (directoryOf path) with
  | (.error fault, prepared) => (.error fault, prepared)
  | (.ok (), prepared) =>
    match prepared.write path content with
    | .ok written => (.ok (), written)
    | .error fault => (.error fault, prepared)

/-- The path of a name inside of a directory. -/
def pathIn (directory name : String) : String :=
  if directory.isEmpty then name
  else if directory.toList.getLast? = some '/' then directory ++ name
  else directory ++ "/" ++ name

end FileSystem

end GatedResolver
