import GatedResolver.FileSystem
import GatedResolver.Settings.Basic
import GatedResolver.Settings.Fault
import GatedResolver.Text.Utf8
import GatedResolver.Toml.Plain
import GatedResolver.Toml.Reader

/-!
# Settings files

A settings file is a document in UTF-8. Keys that no setting has are passed over. A value
of the wrong kind is named only if the rest of the document is in order.
-/

namespace GatedResolver.Settings

/-- The settings in the text of a settings file. -/
def ofDocument (text : String) : Except SettingsFault Settings :=
  match Toml.document? text with
  | none => .error .noDocument
  | some members =>
    match decoder .settings (Toml.Node.table .headed members).tree with
    | .ok settings => .ok settings
    | .error fault =>
      if Toml.areMembersPlain members then .error (.wrongValue fault) else .error .noDocument

/-- The settings in a file. -/
def ofFile (files : FileSystem) (path : String) : Except SettingsFault Settings :=
  match files.read path with
  | .error fault => .error (.unreadable path fault.message)
  | .ok content =>
    match Text.decodeUtf8? content with
    | none => .error (.unreadable path "stream did not contain valid UTF-8")
    | some text => ofDocument text

end GatedResolver.Settings
