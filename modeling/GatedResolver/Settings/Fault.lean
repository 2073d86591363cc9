import GatedResolver.Binary64.Shortest
import GatedResolver.Json.Fault

/-!
# What can be wrong with settings

Settings cannot be had if their file cannot be read or understood, if a variable of the
environment is no number, or if the values do not fit together.
-/

namespace GatedResolver

/-- Why settings cannot be used. -/
inductive SettingsFault where
  /-- The file cannot be read. -/
  | unreadable (path reason : String)
  /-- The file is no settings document. -/
  | noDocument
  /-- A value in the file is of the wrong kind. -/
  | wrongValue (fault : Json.Fault)
  /-- A variable of the environment cannot be read. -/
  | wrongVariable (key value : String)
  /-- The values are refused. -/
  | refused (reason : String)
deriving DecidableEq

/-- Numbers in complaints about settings are written without an exponent. Of two equally
near decimals the greater magnitude is written. -/
def settingsNumberLayout : Binary64.DecimalLayout :=
  ⟨fun _ => true, .up⟩

/-- A fault of a value in a settings file in words. -/
def settingsFaultText (fault : Json.Fault) : String :=
  fault.describe fun number => String.ofList (Binary64.textIn settingsNumberLayout number)

/-- A fault of settings in words. -/
def SettingsFault.message : SettingsFault → String
  | .unreadable path reason => "Failed to read config file " ++ path ++ ": " ++ reason
  | .noDocument => "Failed to parse config file: invalid document"
  | .wrongValue fault => "Failed to parse config file: " ++ settingsFaultText fault
  | .wrongVariable key value => "Invalid value for " ++ key ++ ": " ++ Text.quoted value
  | .refused reason => "Invalid configuration: " ++ reason

end GatedResolver
