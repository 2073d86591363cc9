import Mathlib.Data.List.TakeWhile
import GatedResolver.Proofs.Settings.Single

/-!
# The environment over the settings, and the options over both

Variables are laid over the settings one by one, and each of them touches the setting that it
belongs to and no other. So what an overlay makes of a setting depends on the variable of that
setting alone, as long as none of the variables before it is misunderstood; the first one that is
misunderstood stops the overlay.
-/

namespace GatedResolver

namespace Setting

variable (environment : Environment)

/-- What the environment says about a setting: the text of its variable, if the variable is set
and not blank. -/
def given? (setting : Setting) : Option String :=
  (setting.key?.bind environment).filter fun given => !Text.isBlankText given

/-- The value that the environment gives a setting. -/
def value? (setting : Setting) : Option setting.kind.Value :=
  (setting.given? environment).bind setting.kind.parse?

/-- The fault of the environment in a setting: a variable that has to be a number and is none. -/
def fault? (setting : Setting) : Option SettingsFault := do
  let key ← setting.key?
  let given ← setting.given? environment
  if setting.kind.isNumeric ∧ setting.kind.parse? given = none then
    some (.wrongVariable key given)
  else none

/-- What the environment says about a setting without a fault is understood. -/
theorem understood_of_fault?_eq_none {setting : Setting} {given : String}
    (faultless : setting.fault? environment = none)
    (said : setting.given? environment = some given) :
    ∃ value, setting.kind.parse? given = some value := by
  cases understood : setting.kind.parse? given with
  | some value => exact ⟨value, rfl⟩
  | none =>
    have numeric := SettingKind.isNumeric_of_parse?_eq_none understood
    unfold fault? at faultless
    cases named : setting.key? with
    | none => simp [given?, named] at said
    | some key => simp [named, said, understood, numeric] at faultless

/-- The variable of one setting laid over the settings. -/
def lay (settings : Settings) (setting : Setting) : Settings :=
  match setting.value? environment with
  | some value => setting.set settings value
  | none => settings

/-- What is laid over a setting replaces it. -/
theorem get_lay (settings : Settings) (setting : Setting) :
    setting.get (setting.lay environment settings) =
      (setting.value? environment).getD (setting.get settings) := by
  unfold lay
  cases setting.value? environment with
  | none => rfl
  | some value => exact get_set settings setting value

/-- What is laid over one setting leaves the others alone. -/
theorem get_lay_of_ne (settings : Settings) {setting other : Setting} (differ : setting ≠ other) :
    setting.get (other.lay environment settings) = setting.get settings := by
  unfold lay
  cases other.value? environment with
  | none => rfl
  | some value => exact get_set_of_ne settings differ value

/-- When variables are laid over the settings one after the other, each setting among theirs is
replaced by what its own variable says. -/
theorem get_foldl_lay (settings : Settings) (laid : List Setting) (setting : Setting) :
    setting.get (laid.foldl (lay environment) settings) =
      if setting ∈ laid then (setting.value? environment).getD (setting.get settings)
      else setting.get settings := by
  induction laid generalizing settings with
  | nil => rfl
  | cons next rest inductionHypothesis =>
    rw [List.foldl_cons, inductionHypothesis]
    by_cases same : setting = next
    · subst same
      rw [get_lay]
      cases setting.value? environment <;> simp
    · rw [get_lay_of_ne environment settings same]
      simp only [List.mem_cons, same, false_or]

end Setting

namespace Settings

variable (environment : Environment)

/-- A setting without a fault in its variable: the overlay goes on behind it. -/
theorem overlay_of_fault?_eq_none {setting : Setting} (rest : List Setting)
    (faultless : setting.fault? environment = none) (settings : Settings) :
    overlay environment settings ((setting :: rest).filterMap Setting.variableOf?) =
      overlay environment (setting.lay environment settings)
        (rest.filterMap Setting.variableOf?) := by
  rw [List.filterMap_cons, Setting.variableOf?, Setting.lay, Setting.value?]
  cases named : setting.key? with
  | none =>
    have silent : setting.given? environment = none := by simp [Setting.given?, named]
    rw [silent]
    rfl
  | some key =>
    simp only [Option.map_some, overlay]
    cases spoken : environment key with
    | none =>
      have silent : setting.given? environment = none := by simp [Setting.given?, named, spoken]
      rw [silent]
      rfl
    | some given =>
      by_cases blank : Text.isBlankText given = true
      · have silent : setting.given? environment = none := by
          simp [Setting.given?, named, spoken, blank]
        rw [silent]
        exact if_pos blank
      · have said : setting.given? environment = some given := by
          simp [Setting.given?, named, spoken, blank]
        obtain ⟨value, understood⟩ :=
          Setting.understood_of_fault?_eq_none environment faultless said
        simp [said, blank, understood]

/-- A setting with a fault in its variable: the overlay stops in front of it. -/
theorem overlay_of_fault?_eq_some {setting : Setting} (rest : List Setting)
    {fault : SettingsFault} (faulty : setting.fault? environment = some fault)
    (settings : Settings) :
    overlay environment settings ((setting :: rest).filterMap Setting.variableOf?) =
      (settings, some fault) := by
  simp only [Setting.fault?, Setting.given?, Option.bind_eq_bind, Option.bind_eq_some_iff,
    Option.filter_eq_some_iff, Option.ite_none_right_eq_some, Option.some.injEq,
    Bool.not_eq_true'] at faulty
  obtain ⟨key, named, given, ⟨spoken, notBlank⟩, ⟨-, misunderstood⟩, rfl⟩ := faulty
  obtain ⟨spokenOf, same, spoken⟩ := spoken
  cases named.symm.trans same
  rw [List.filterMap_cons, Setting.variableOf?, named, Option.map_some]
  simp [overlay, spoken, notBlank, misunderstood]

/-- The fault of an overlay is that of the first setting that has one. -/
theorem overlay_fault (laid : List Setting) (settings : Settings) :
    (overlay environment settings (laid.filterMap Setting.variableOf?)).2 =
      laid.findSome? (Setting.fault? environment) := by
  induction laid generalizing settings with
  | nil => rfl
  | cons setting rest inductionHypothesis =>
    cases found : setting.fault? environment with
    | none =>
      rw [overlay_of_fault?_eq_none environment rest found, inductionHypothesis,
        List.findSome?_cons, found]
    | some fault =>
      rw [overlay_of_fault?_eq_some environment rest found, List.findSome?_cons, found]

/-- An overlay lays the variables of the settings up to the first one with a fault. -/
theorem overlay_settings (laid : List Setting) (settings : Settings) :
    (overlay environment settings (laid.filterMap Setting.variableOf?)).1 =
      (laid.takeWhile fun setting => (setting.fault? environment).isNone).foldl
        (Setting.lay environment) settings := by
  induction laid generalizing settings with
  | nil => rfl
  | cons setting rest inductionHypothesis =>
    cases found : setting.fault? environment with
    | none =>
      rw [overlay_of_fault?_eq_none environment rest found, inductionHypothesis,
        List.takeWhile_cons_of_pos (by simp [found]), List.foldl_cons]
    | some fault =>
      rw [overlay_of_fault?_eq_some environment rest found,
        List.takeWhile_cons_of_neg (by simp [found]), List.foldl_nil]

/-- The fault of the environment is that of the first setting that has one. -/
theorem withEnvironment_fault (settings : Settings) :
    (settings.withEnvironment environment).2 =
      Setting.all.findSome? (Setting.fault? environment) := by
  rw [withEnvironment, Variable.all_eq_filterMap, overlay_fault]

/-- An environment without a fault gives every setting that it speaks of. -/
theorem get_withEnvironment (settings : Settings)
    (faultless : (settings.withEnvironment environment).2 = none) (setting : Setting) :
    setting.get (settings.withEnvironment environment).1 =
      (setting.value? environment).getD (setting.get settings) := by
  rw [withEnvironment_fault, List.findSome?_eq_none_iff] at faultless
  have all : Setting.all.takeWhile (fun setting => (setting.fault? environment).isNone) =
      Setting.all := by
    rw [List.takeWhile_eq_self_iff]
    intro setting listed
    rw [faultless setting listed, Option.isNone_none]
  rw [withEnvironment, Variable.all_eq_filterMap, overlay_settings, all, Setting.get_foldl_lay,
    if_pos setting.mem_all]

end Settings

/-- What options of the command line say about a setting. -/
def Options.choice? (options : Options) : (setting : Setting) → Option setting.kind.Value
  | .bindAddress => options.bindAddress
  | .dohListener => options.dohListener
  | .dotListener => options.dotListener
  | .directory => options.receiptDirectory
  | .logLevel => options.logLevel
  | _ => none

/-- Options replace the settings that they speak of, and no others. -/
theorem Settings.get_withOptions (settings : Settings) (options : Options) (setting : Setting) :
    setting.get (settings.withOptions options) =
      (options.choice? setting).getD (setting.get settings) := by
  cases setting <;> rfl

end GatedResolver
