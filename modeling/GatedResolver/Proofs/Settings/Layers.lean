import GatedResolver.Proofs.Settings.Document
import GatedResolver.Proofs.Settings.Overlay
import GatedResolver.Settings.Load

/-!
# The layers that settings are loaded from

Loaded settings come from four layers. For each setting the highest layer that speaks of it
decides: the options of the command line, then the environment, then the settings file, and at last
the default. Loading fails only as a whole, with the fault of the file or with that of the first
variable that is no number.
-/

namespace GatedResolver.Settings

section Loading

variable {files : FileSystem} {path : Option String} {environment : Environment}
  {options : Options}

/-- The settings that the environment is laid over: those of the file if there is one, or else
the defaults. -/
def base (files : FileSystem) : Option String → Except SettingsFault Settings
  | some path => ofFile files path
  | none => .ok {}

/-- What becomes of settings under an environment is decided by the first fault of the
environment. -/
theorem withEnvironment_eq (settings : Settings) (environment : Environment) (options : Options) :
    (match settings.withEnvironment environment with
      | (_, some fault) => throw fault
      | (laid, none) => return laid.withOptions options : Except SettingsFault Settings) =
    match Setting.all.findSome? (Setting.fault? environment) with
    | some fault => throw fault
    | none => return (settings.withEnvironment environment).1.withOptions options := by
  rw [← withEnvironment_fault environment settings]
  obtain ⟨laid, fault⟩ := settings.withEnvironment environment
  cases fault <;> rfl

/-- Loading lays the environment over the base, and the options over both. -/
theorem load_eq (files : FileSystem) (path : Option String) (environment : Environment)
    (options : Options) :
    load files path environment options = do
      let settings ← base files path
      match Setting.all.findSome? (Setting.fault? environment) with
      | some fault => throw fault
      | none => return (settings.withEnvironment environment).1.withOptions options := by
  cases path with
  | none => exact withEnvironment_eq {} environment options
  | some path =>
    exact congrArg (ofFile files path >>= ·) (funext fun settings =>
      withEnvironment_eq settings environment options)

/-- The base of settings has what the document says, and the defaults of all that it does not
speak of. -/
theorem isWritten_of_base {settings : Settings} (based : base files path = .ok settings) :
    ∃ document, document? files path = some document ∧ ∀ setting : Setting,
      match setting.node? document with
      | some node => setting.kind.IsWritten (setting.get settings) node
      | none => setting.get settings = setting.default := by
  cases path with
  | some path => exact isWritten_of_ofFile based
  | none =>
    cases based
    exact ⟨[], rfl, fun setting => rfl⟩

/-- Loaded settings are those of the base with the environment and the options laid over it, and
then the environment has no fault. -/
theorem load_eq_ok {settings : Settings}
    (loaded : load files path environment options = .ok settings) :
    ∃ settings', base files path = .ok settings' ∧
      Setting.all.findSome? (Setting.fault? environment) = none ∧
      settings = (settings'.withEnvironment environment).1.withOptions options := by
  rw [load_eq] at loaded
  obtain ⟨settings', based, loaded⟩ := ok_of_bind loaded
  cases found : Setting.all.findSome? (Setting.fault? environment) with
  | some fault =>
    rw [found] at loaded
    cases loaded
  | none =>
    rw [found] at loaded
    cases loaded
    exact ⟨settings', based, rfl, rfl⟩

/-- Loading fails with the fault of the base, or else with that of the environment. -/
theorem load_eq_error_iff {fault : SettingsFault} :
    load files path environment options = .error fault ↔
      base files path = .error fault ∨ (∃ settings, base files path = .ok settings) ∧
        Setting.all.findSome? (Setting.fault? environment) = some fault := by
  rw [load_eq]
  cases base files path with
  | error cause => simp [bind, Except.bind]
  | ok settings =>
    cases Setting.all.findSome? (Setting.fault? environment) with
    | some cause => simp [bind, Except.bind, throw, throwThe, MonadExceptOf.throw]
    | none => simp [bind, Except.bind, pure, Except.pure]

end Loading

/-- Each setting that is loaded is what the options say; where they are silent, what the environment
says; where that is silent, too, what the document says; and otherwise the default. The default name
is left to the document. Loading fails with the fault of the file if that cannot be used, and
otherwise, and only then, with the fault of the first variable that is no number. -/
theorem load_layers (files : FileSystem) (path : Option String) (environment : Environment)
    (options : Options) :
    (∀ settings, load files path environment options = .ok settings →
      ∃ document, document? files path = some document ∧ ∀ setting : Setting,
        match options.choice? setting, setting.given? environment, setting.node? document with
        | some choice, _, _ => setting.get settings = choice
        | none, some given, _ => setting.kind.parse? given = some (setting.get settings)
        | none, none, some node => setting.kind.IsWritten (setting.get settings) node
        | none, none, none => setting.get settings = setting.default) ∧
    (options.choice? .defaultName = none ∧ Setting.given? environment .defaultName = none) ∧
    (∀ fault, load files path environment options = .error fault ↔
      (∃ name, path = some name ∧ ofFile files name = .error fault) ∨
      (∀ name, path = some name → ∃ settings, ofFile files name = .ok settings) ∧
        Setting.all.findSome? (Setting.fault? environment) = some fault) ∧
    (∀ name fault, ofFile files name = .error fault →
      match fileText? files name with
      | none => ∃ reason, fault = .unreadable name reason
      | some _ => fault = .noDocument ∨ ∃ cause, fault = .wrongValue cause) := by
  refine ⟨fun settings loaded => ?_, ⟨rfl, rfl⟩, fun fault => ?_, fun name fault failed =>
    fault_of_ofFile failed⟩
  · obtain ⟨based, baseLoaded, faultless, rfl⟩ := load_eq_ok loaded
    obtain ⟨document, found, written⟩ := isWritten_of_base baseLoaded
    refine ⟨document, found, fun setting => ?_⟩
    have laid := get_withEnvironment environment based
      ((withEnvironment_fault environment based).trans faultless) setting
    rw [get_withOptions, laid]
    cases options.choice? setting with
    | some choice => rfl
    | none =>
      rw [Option.getD_none, Setting.value?]
      cases said : setting.given? environment with
      | some given =>
        have settingFaultless := List.findSome?_eq_none_iff.mp faultless setting setting.mem_all
        obtain ⟨value, understood⟩ :=
          Setting.understood_of_fault?_eq_none environment settingFaultless said
        rw [Option.bind_some, understood]
        exact understood
      | none =>
        have own := written setting
        cases standing : setting.node? document with
        | some node =>
          rw [standing] at own
          exact own
        | none =>
          rw [standing] at own
          exact own
  · rw [load_eq_error_iff]
    cases path with
    | some name => simp [base]
    | none => simp [base]

namespace FromAllLayers

/-- A file with an address, two listeners and a default name. -/
def files : FileSystem :=
  ⟨⟨[(["s.toml"], .file (Text.utf8
    "[server]\nbind_address = 'a'\npolicy_port = 1\ndot_port = 2\n[resolver]\ndefault_name = 'b'"))]⟩,
    []⟩

/-- One of the listeners in the environment, and a blank secret. -/
def environment : Environment := fun key =>
  if key = "DOT_PORT" then some " +3" else if key = "RECEIPT_SECRET" then some " " else none

/-- An environment with two listeners that are no numbers. -/
def misspelled : Environment := fun key =>
  if key = "DOT_PORT" then some "3x" else if key = "CACHE_PORT" then some "65536" else none

/-- The address among the options. -/
def options : Options := { bindAddress := some "c" }

/-- What is loaded from all of them. -/
def settings : Settings :=
  { server := { bindAddress := "c", policyListener := 1, dotListener := 3 }
    resolver := { defaultName := "b" } }

end FromAllLayers

open FromAllLayers in
/-- Settings are loaded from all four layers, and each comes from the highest that speaks of it. Of
two listeners that are no numbers the first one is the fault. -/
theorem load_layers_fromAllLayers :
    load files (some "s.toml") environment options = .ok settings ∧
    (∃ document, document? files (some "s.toml") = some document ∧ ∀ setting : Setting,
      match options.choice? setting, setting.given? environment, setting.node? document with
      | some choice, _, _ => setting.get settings = choice
      | none, some given, _ => setting.kind.parse? given = some (setting.get settings)
      | none, none, some node => setting.kind.IsWritten (setting.get settings) node
      | none, none, none => setting.get settings = setting.default) ∧
    load files none misspelled options = .error (.wrongVariable "CACHE_PORT" "65536") := by
  have loaded : load files (some "s.toml") environment options = .ok settings := by
    decide +kernel
  exact ⟨loaded, (load_layers files (some "s.toml") environment options).1 settings loaded,
    ((load_layers files none misspelled options).2.2.1 _).mpr (.inr ⟨nofun, by decide⟩)⟩

end GatedResolver.Settings
