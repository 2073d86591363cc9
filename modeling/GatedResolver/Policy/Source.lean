import GatedResolver.Failure
import GatedResolver.FileSystem
import GatedResolver.Policy.Decision

/-!
# Policy documents in files

The decision is read from its file each time that it is asked for, so that an edited file
is in force at once.
-/

namespace GatedResolver.Policy

/-- The decision in a file. -/
def readFile (files : FileSystem) (path : String) : Except Failure Decision :=
  match files.read path with
  | .error fault =>
    .error (.policySource ("cannot read " ++ path ++ ": " ++ fault.message))
  | .ok content =>
    match Decision.decoder.decode content with
    | .error fault =>
      .error (.policySource ("invalid policy in " ++ path ++ ": " ++ fault.message))
    | .ok decision => .ok decision

end GatedResolver.Policy
