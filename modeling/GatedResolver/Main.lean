import GatedResolver.CommandLine.Startup
import GatedResolver.Http.Segment
import GatedResolver.Http.Wire
import Std.Time.DateTime.Timestamp

/-!
# The program

The program serves one connection, which a supervisor of sockets hands to it as its
standard input and output. The first service of the command that is a site answers the
requests; if there is none, the stream listener answers the bytes. Remote collaborators are
out of reach of such a process. Files are read before a request and written after it.
-/

namespace GatedResolver.Main

open CommandLine

/-- The name of the program. -/
def programName : String := "gated-resolver"

/-- How the program is called. -/
def usage : String :=
  "Usage: [OPTIONS] [policy|cache|upstream|receipt|resolver|all]\n" ++
    "Options: --config FILE, --bind ADDRESS, --doh-port PORT, --dot-port PORT, " ++
    "--receipt-dir DIRECTORY, --log-level LEVEL"

/-- Random bytes. -/
def randomBytes (count : Nat) : IO Bytes := do
  return (← IO.getRandomBytes count.toUSize).toList

/-- The random bits of a receipt. -/
def randomEntropy : IO Receipt.Entropy := do
  let bytes ← randomBytes 16
  return Vector.ofFn fun index => bytes.getD index.val 0

/-- The time in seconds. -/
def now : IO Int64 := do
  let moment ← Std.Time.Timestamp.now
  return Int64.ofInt moment.toSecondsSinceUnixEpoch.val

/-- The variables of the environment that give settings. -/
def environment : IO Environment := do
  let entries ← Variable.all.mapM fun entry => do
    return (entry.key, ← IO.getEnv entry.key)
  return fun key => (entries.find? fun entry => entry.1 = key).bind Prod.snd

/-- Read a file from the disk. One that cannot be read is not there. -/
def readInto (files : FileSystem) (path : String) : IO FileSystem := do
  try
    return (files.place path (← IO.FS.readBinFile path).toList).2
  catch _ =>
    return (files.removeFile path).toOption.getD files

/-- The files that a request can read: the policy file, the file of the receipt that it
names, and whatever stands in the place of the directory of receipts. -/
def filesFor (settings : Settings) (path : String) : List String :=
  let directory := settings.receipt.directory
  let named :=
    match (Http.segmentBehind? "/receipt/" path).bind Http.segmentText? with
    | some id => (Receipt.pathFor directory id).toOption.toList
    | none => []
  settings.policy.path :: directory :: named

/-- Bring a world up to date before a request. -/
def refresh (settings : Settings) (world : World) (path : String) : IO World := do
  let files ← (filesFor settings path).foldlM readInto world.files
  let entropy ← randomEntropy
  return { world with files := files, clock := ← now, entropy := fun _ => entropy }

/-- Write the receipts that a request made to the disk. -/
def keepReceipts (settings : Settings) (before after : World) : IO Unit := do
  let directory := settings.receipt.directory
  for number in (List.range after.drawn).drop before.drawn do
    let id := Receipt.idOf (after.entropy number)
    match Receipt.pathFor directory id with
    | .error _ => pure ()
    | .ok path =>
      match after.files.read path with
      | .error _ => pure ()
      | .ok content =>
        IO.FS.createDirAll directory
        IO.FS.writeBinFile path ⟨content.toArray⟩

/-- Tell the operator about warnings. -/
def tell (warnings : List Warning) : IO Unit :=
  warnings.forM fun warning =>
    let fields := warning.fields.map fun (key, value) => " " ++ key ++ "=" ++ value
    IO.eprintln ("WARN " ++ warning.message ++ String.join fields)

/-- Write bytes to the connection. -/
def send (bytes : Bytes) : IO Unit := do
  let output ← IO.getStdout
  output.write ⟨bytes.toArray⟩
  output.flush

/-- The lines of a head up to the empty one. -/
partial def readLines : IO (List String) := do
  let line ← (← IO.getStdin).getLine
  if (Text.trim line).isEmpty then return []
  else return line :: (← readLines)

/-- So many bytes of the connection, unless it ends before. -/
partial def readBytes (count : Nat) : IO Bytes := do
  if count = 0 then return []
  else
    let chunk ← (← IO.getStdin).read count.toUSize
    if chunk.isEmpty then return []
    else return chunk.toList ++ (← readBytes (count - chunk.size))

/-- Answer requests until the connection ends. -/
partial def serveSite (settings : Settings) (site : Site (StateM World)) (world : World) :
    IO Unit := do
  match ← readLines with
  | [] => return ()
  | start :: headers =>
    let body ← readBytes (Http.Wire.bodyLength headers)
    match Http.Wire.readStart? start with
    | none => send (Http.Wire.write (.text 400 ""))
    | some (method, target) =>
      let fresh ← refresh settings world target.path
      let (response, after) := site.respond ⟨method, target, body⟩ fresh
      keepReceipts settings fresh after
      tell after.warnings.reverse
      send (Http.Wire.write response)
      serveSite settings site { after with warnings := [] }

/-- Answer the bytes of the connection. -/
def serveStream (settings : Settings) (reply : Bytes → StateM World (Option Bytes))
    (world : World) : IO Unit := do
  let payload ← (← IO.getStdin).read Stream.readLimit.toUSize
  let fresh ← refresh settings world ""
  let (line, after) := reply payload.toList fresh
  keepReceipts settings fresh after
  tell after.warnings.reverse
  send (line.getD [])

/-- Serve the connection with the first site among listeners, or else with the first one. -/
def serve (settings : Settings) (listeners : List Listener) (world : World) : IO Unit :=
  let site? : Listener → Option (Site (StateM World))
    | .site site => some site
    | .stream _ => none
  match listeners.findSome? site?, listeners with
  | some site, _ => serveSite settings site world
  | none, .stream reply :: _ => serveStream settings reply world
  | none, _ => return ()

/-- Start a process and serve the connection. -/
def run (invocation : Invocation) : IO UInt32 := do
  let files ←
    match invocation.choices.settingsFile with
    | some path => readInto .empty path
    | none => pure .empty
  let random ← randomBytes Receipt.Secret.ephemeralLength
  let unreachable : Components.Transport := fun _ => return .failed
  match start invocation files (← environment) (fun _ => unreachable) random with
  | .error fault =>
    IO.eprint fault.report
    return 1
  | .ok (launch, listeners) =>
    tell (Components.warnings launch.settings launch.services)
    let entropy ← randomEntropy
    serve launch.settings listeners { files := files, entropy := fun _ => entropy }
    return 0

end GatedResolver.Main

/-- Run what the arguments ask for. -/
def main (arguments : List String) : IO UInt32 :=
  open GatedResolver in
  match CommandLine.read arguments with
  | .run invocation => Main.run invocation
  | .help => do
    IO.println Main.usage
    return 0
  | .version => do
    IO.println (CommandLine.versionLine Main.programName)
    return 0
  | .misuse => do
    IO.eprintln Main.usage
    return 2
