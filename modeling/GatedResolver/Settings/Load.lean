import GatedResolver.Settings.File
import GatedResolver.Settings.Overlay
import GatedResolver.Settings.Validation

/-!
# Loading settings

Settings come from a file or from the defaults; the environment is laid over them, then
the options of the command line.
-/

namespace GatedResolver.Settings

/-- Load settings without checking them. -/
def load (files : FileSystem) (path : Option String) (environment : Environment)
    (options : Options) : Except SettingsFault Settings := do
  let base ←
    match path with
    | some path => ofFile files path
    | none => pure {}
  match base.withEnvironment environment with
  | (_, some fault) => throw fault
  | (settings, none) => return settings.withOptions options

/-- Load settings and check them. -/
def loadChecked (files : FileSystem) (path : Option String) (environment : Environment)
    (options : Options) : Except SettingsFault Settings := do
  let settings ← load files path environment options
  settings.validate
  return settings

/-- Load settings and check them, also for services with some labels that run together. -/
def loadFor (labels : List String) (files : FileSystem) (path : Option String)
    (environment : Environment) (options : Options) : Except SettingsFault Settings := do
  let settings ← loadChecked files path environment options
  settings.checkListeners labels
  return settings

end GatedResolver.Settings
