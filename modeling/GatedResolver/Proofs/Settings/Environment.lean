import Mathlib.Data.List.Induction
import Mathlib.Data.Nat.Digits.Defs
import GatedResolver.Proofs.Settings.Overlay

/-!
# The environment, variable by variable

The variables of the environment are laid over the settings from the left to the right, up to the
first one that has to be a number and is none. The settings of the variables in front of it are what
these variables say, all others are what they were, and an overlay that is repeated changes nothing.
What a number is, is said without the reader: an optional plus sign and digits, between blanks.
-/

namespace GatedResolver

namespace Text

/-- A text spells a number: an optional plus sign and one or more ASCII digits, the most significant
first. -/
def SpellsNumber (text : String) (number : Nat) : Prop :=
  ∃ sign digits : List Char, text.toList = sign ++ digits ∧ (sign = [] ∨ sign = ['+']) ∧
    digits ≠ [] ∧ (∀ digit ∈ digits, digit.isDigit = true) ∧
    number = Nat.ofDigits 10 (digits.reverse.map fun digit => digit.toNat - 48)

/-- Digits are worth what they are worth as the digits of a number in base ten. -/
theorem digitsValue_eq_ofDigits (digits : List Char) :
    digitsValue digits =
      Nat.ofDigits 10 (digits.reverse.map fun digit => digit.toNat - 48) := by
  induction digits using List.reverseRecOn with
  | nil => rfl
  | append_singleton front last inductionHypothesis =>
    rw [digitsValue, List.foldl_append, ← digitsValue, inductionHypothesis, List.reverse_concat,
      List.map_cons, Nat.ofDigits_cons, List.foldl_cons, List.foldl_nil, Nat.add_comm]

/-- Digits have no plus sign in front of them that could be dropped. -/
theorem dropPlus_of_isDigit {digits : List Char}
    (allDigits : ∀ digit ∈ digits, digit.isDigit = true) : dropPlus digits = digits := by
  unfold dropPlus
  split
  next rest => exact absurd (allDigits '+' List.mem_cons_self) (by decide)
  next => rfl

/-- What is left of characters behind an optional plus sign. -/
theorem dropPlus_spec (characters : List Char) :
    ∃ sign, (sign = [] ∨ sign = ['+']) ∧ characters = sign ++ dropPlus characters := by
  unfold dropPlus
  split
  next rest => exact ⟨['+'], .inr rfl, rfl⟩
  next => exact ⟨[], .inl rfl, rfl⟩

/-- A number is read exactly from a text that spells it, if it is below the limit. -/
theorem readDecimal?_eq_some_iff {limit : Nat} {text : String} {number : Nat} :
    readDecimal? limit text = some number ↔ SpellsNumber text number ∧ number < limit := by
  have reading : readDecimal? limit text = some number ↔
      dropPlus text.toList ≠ [] ∧ (∀ digit ∈ dropPlus text.toList, digit.isDigit = true) ∧
        digitsValue (dropPlus text.toList) = number ∧ number < limit := by
    simp only [readDecimal?, Bool.or_eq_true, List.isEmpty_iff, Bool.not_eq_true',
      Option.ite_none_left_eq_some, Option.ite_none_right_eq_some, Option.some.injEq, not_or,
      Bool.not_eq_false, List.all_eq_true]
    constructor
    · rintro ⟨⟨nonempty, allDigits⟩, below, rfl⟩
      exact ⟨nonempty, allDigits, rfl, below⟩
    · rintro ⟨nonempty, allDigits, rfl, below⟩
      exact ⟨⟨nonempty, allDigits⟩, below, rfl⟩
  rw [reading]
  constructor
  · rintro ⟨nonempty, allDigits, worth, below⟩
    obtain ⟨sign, signed, shape⟩ := dropPlus_spec text.toList
    exact ⟨⟨sign, _, shape, signed, nonempty, allDigits,
      worth.symm.trans (digitsValue_eq_ofDigits _)⟩, below⟩
  · rintro ⟨⟨sign, digits, shape, signed, nonempty, allDigits, worth⟩, below⟩
    have dropped : dropPlus text.toList = digits := by
      rw [shape]
      rcases signed with rfl | rfl
      · exact dropPlus_of_isDigit allDigits
      · rfl
    rw [dropped]
    exact ⟨nonempty, allDigits, (digitsValue_eq_ofDigits digits).trans worth.symm, below⟩

/-- A word is read exactly from a text that spells its number, whatever the size of the words. -/
theorem map_readDecimal?_eq_some_iff {Word : Type} {limit : Nat} {ofNat : Nat → Word}
    {toNat : Word → Nat} (below : ∀ word, toNat word < limit)
    (toNat_ofNat : ∀ number < limit, toNat (ofNat number) = number)
    (ofNat_toNat : ∀ word, ofNat (toNat word) = word) {text : String} {word : Word} :
    (readDecimal? limit text).map ofNat = some word ↔ SpellsNumber text (toNat word) := by
  simp only [Option.map_eq_some_iff, readDecimal?_eq_some_iff]
  constructor
  · rintro ⟨number, ⟨spelled, small⟩, rfl⟩
    rwa [toNat_ofNat number small]
  · intro spelled
    exact ⟨toNat word, ⟨spelled, below word⟩, ofNat_toNat word⟩

end Text

namespace SettingKind

/-- What the text of a variable means, for each kind of settings: the text as it stands, the list of
its members, or the number that it spells between blanks. -/
def Means : (kind : SettingKind) → String → kind.Value → Prop
  | .text, given, value => value = given
  | .optionalText, given, value => value = some given
  | .texts, given, value => value = memberList given
  | .word16, given, value => Text.SpellsNumber (Text.trim given) value.toNat
  | .word32, given, value => Text.SpellsNumber (Text.trim given) value.toNat
  | .word64, given, value => Text.SpellsNumber (Text.trim given) value.toNat
  | .optionalWord32, given, value =>
    ∃ word : UInt32, value = some word ∧ Text.SpellsNumber (Text.trim given) word.toNat

/-- A text is understood exactly as what it means. -/
theorem parse?_eq_some_iff {kind : SettingKind} {given : String} {value : kind.Value} :
    kind.parse? given = some value ↔ kind.Means given value := by
  cases kind with
  | text | optionalText | texts => exact Option.some_inj.trans eq_comm
  | word16 =>
    exact Text.map_readDecimal?_eq_some_iff UInt16.toNat_lt
      (fun _ small => UInt16.toNat_ofNat_of_lt' small) (fun _ => UInt16.ofNat_toNat)
  | word32 =>
    exact Text.map_readDecimal?_eq_some_iff UInt32.toNat_lt
      (fun _ small => UInt32.toNat_ofNat_of_lt' small) (fun _ => UInt32.ofNat_toNat)
  | word64 =>
    exact Text.map_readDecimal?_eq_some_iff UInt64.toNat_lt
      (fun _ small => UInt64.toNat_ofNat_of_lt' small) (fun _ => UInt64.ofNat_toNat)
  | optionalWord32 =>
    have read (word : UInt32) :
        (Text.readDecimal? 4294967296 (Text.trim given)).map UInt32.ofNat = some word ↔
          Text.SpellsNumber (Text.trim given) word.toNat :=
      Text.map_readDecimal?_eq_some_iff UInt32.toNat_lt
        (fun _ small => UInt32.toNat_ofNat_of_lt' small) (fun _ => UInt32.ofNat_toNat)
    simp only [Means, ← read, parse?, Option.map_eq_some_iff]
    constructor
    · rintro ⟨number, spelled, rfl⟩
      exact ⟨UInt32.ofNat number, rfl, number, spelled, rfl⟩
    · rintro ⟨word, rfl, number, spelled, rfl⟩
      exact ⟨number, spelled, rfl⟩

/-- A text is misunderstood if there is nothing that it means. -/
theorem parse?_eq_none_iff {kind : SettingKind} {given : String} :
    kind.parse? given = none ↔ ∀ value, ¬ kind.Means given value := by
  simp only [Option.eq_none_iff_forall_ne_some, ne_eq, parse?_eq_some_iff]

end SettingKind

namespace Setting

variable {environment : Environment}

/-- Only a setting with a variable is spoken of. -/
theorem exists_key_of_given? {setting : Setting} {given : String}
    (said : setting.given? environment = some given) : ∃ key, setting.key? = some key := by
  cases named : setting.key? with
  | none => simp [given?, named] at said
  | some key => exact ⟨key, rfl⟩

/-- A setting is faulty when what its variable says has to be a number and is none. -/
theorem fault?_eq_some_iff {setting : Setting} {fault : SettingsFault} :
    setting.fault? environment = some fault ↔
      ∃ key given, setting.key? = some key ∧ setting.given? environment = some given ∧
        setting.kind.isNumeric = true ∧ (∀ value, ¬ setting.kind.Means given value) ∧
        fault = .wrongVariable key given := by
  simp only [fault?, Option.bind_eq_bind, Option.bind_eq_some_iff, Option.ite_none_right_eq_some,
    Option.some.injEq, ← SettingKind.parse?_eq_none_iff]
  constructor
  · rintro ⟨key, named, given, said, ⟨numeric, misunderstood⟩, rfl⟩
    exact ⟨key, given, named, said, numeric, misunderstood, rfl⟩
  · rintro ⟨key, given, named, said, numeric, misunderstood, rfl⟩
    exact ⟨key, named, given, said, ⟨numeric, misunderstood⟩, rfl⟩

/-- The settings in front of the first faulty one, in the order in which their variables are laid
over the settings. -/
def faultless (environment : Environment) : List Setting :=
  all.takeWhile fun setting => (setting.fault? environment).isNone

/-- The first faulty setting and those behind it. -/
def unreached (environment : Environment) : List Setting :=
  all.dropWhile fun setting => (setting.fault? environment).isNone

/-- The first setting that is not reached is faulty. -/
theorem faulty_of_unreached {setting : Setting} {behind : List Setting}
    (left : unreached environment = setting :: behind) :
    ∃ fault, setting.fault? environment = some fault := by
  have stopped := List.head?_dropWhile_not
    (fun setting => (fault? environment setting).isNone) all
  rw [← unreached, left] at stopped
  have faulty : (setting.fault? environment).isNone = false := by simpa using stopped
  exact Option.isSome_iff_exists.mp (Option.isNone_eq_false_iff.mp faulty)

/-- Settings that agree one by one are the same. -/
theorem eq_of_forall_get_eq {left right : Settings}
    (agree : ∀ setting : Setting, setting.get left = setting.get right) : left = right := by
  obtain ⟨⟨⟩, ⟨⟩, ⟨⟩, ⟨⟩, ⟨⟩, ⟨⟩⟩ := left
  obtain ⟨⟨⟩, ⟨⟩, ⟨⟩, ⟨⟩, ⟨⟩, ⟨⟩⟩ := right
  simp only [Settings.mk.injEq, ServerSettings.mk.injEq, ResolverSettings.mk.injEq,
    QuorumSettings.mk.injEq, ReceiptSettings.mk.injEq, PolicySettings.mk.injEq,
    LoggingSettings.mk.injEq]
  exact ⟨⟨agree .bindAddress, agree .policyListener, agree .quorumListener, agree .cacheListener,
      agree .receiptListener, agree .dohListener, agree .dotListener⟩,
    ⟨agree .policyUrl, agree .quorumUrl, agree .cacheUrl, agree .receiptUrl, agree .timeoutMs,
      agree .defaultName⟩,
    ⟨agree .members, agree .recordType, agree .ttl, agree .data, agree .required⟩,
    ⟨agree .secret, agree .directory⟩, agree .policyPath, agree .logLevel⟩

end Setting

namespace Settings

variable (settings : Settings) (environment : Environment)

/-- The faultless settings are replaced by what their variables say, the others stay. -/
theorem get_withEnvironment_eq_ite (setting : Setting) :
    setting.get (settings.withEnvironment environment).1 =
      if setting ∈ Setting.faultless environment then
        (setting.value? environment).getD (setting.get settings)
      else setting.get settings := by
  rw [withEnvironment, Variable.all_eq_filterMap, overlay_settings, Setting.get_foldl_lay]
  rfl

/-- The fault of the environment is that of the first setting that is not reached. -/
theorem withEnvironment_fault_eq_head? :
    (settings.withEnvironment environment).2 =
      (Setting.unreached environment).head?.bind (Setting.fault? environment) := by
  have first (listed : List Setting) :
      listed.findSome? (Setting.fault? environment) =
        (listed.dropWhile fun setting => (setting.fault? environment).isNone).head?.bind
          (Setting.fault? environment) := by
    induction listed with
    | nil => rfl
    | cons setting rest inductionHypothesis =>
      cases found : setting.fault? environment with
      | none => simp [found, inductionHypothesis]
      | some fault => simp [found]
  exact (withEnvironment_fault environment settings).trans (first Setting.all)

/-- What is said about a faultless setting is what it is set to. -/
theorem means_get_withEnvironment {setting : Setting} {given : String}
    (listed : setting ∈ Setting.faultless environment)
    (said : setting.given? environment = some given) :
    setting.kind.Means given (setting.get (settings.withEnvironment environment).1) := by
  have free : (setting.fault? environment).isNone = true :=
    List.mem_takeWhile_imp (p := fun setting => (Setting.fault? environment setting).isNone) listed
  obtain ⟨value, understood⟩ :=
    Setting.understood_of_fault?_eq_none environment (Option.isNone_iff_eq_none.mp free) said
  rw [get_withEnvironment_eq_ite, if_pos listed, Setting.value?, said, Option.bind_some,
    understood]
  exact SettingKind.parse?_eq_some_iff.mp understood

/-- A setting that is not reached, or that the environment does not speak of, stays. -/
theorem get_withEnvironment_of_silent {setting : Setting}
    (silent : setting ∉ Setting.faultless environment ∨ setting.given? environment = none) :
    setting.get (settings.withEnvironment environment).1 = setting.get settings := by
  rw [get_withEnvironment_eq_ite]
  rcases silent with unlisted | silent
  · exact if_neg unlisted
  · rw [Setting.value?, silent, Option.bind_none, Option.getD_none, ite_self]

/-- An overlay that is repeated changes nothing and has the same fault. -/
theorem withEnvironment_withEnvironment :
    (settings.withEnvironment environment).1.withEnvironment environment =
      settings.withEnvironment environment := by
  apply Prod.ext
  · apply Setting.eq_of_forall_get_eq
    intro setting
    rw [get_withEnvironment_eq_ite, get_withEnvironment_eq_ite]
    split
    · cases setting.value? environment <;> rfl
    · rfl
  · rw [withEnvironment_fault, withEnvironment_fault]

/-- The environment has a fault exactly if some setting has. -/
theorem withEnvironment_fault_ne_none_iff :
    (settings.withEnvironment environment).2 ≠ none ↔
      ∃ setting fault, Setting.fault? environment setting = some fault := by
  rw [withEnvironment_fault, ne_eq, List.findSome?_eq_none_iff]
  constructor
  · intro faulty
    obtain ⟨setting, -, faulty⟩ := by simpa using faulty
    obtain ⟨fault, found⟩ := Option.ne_none_iff_exists'.mp faulty
    exact ⟨setting, fault, found⟩
  · rintro ⟨setting, fault, found⟩ faultless
    exact nomatch found.symm.trans (faultless setting setting.mem_all)

/-- The environment is laid over the settings from the left to the right and stops at the first
variable that has to be a number and is none. The settings in front of that variable are what their
variables mean; all others, and those whose variable is not set or blank, are what they were. The
fault names the variable with its text as it stands; there is one exactly if some variable has to be
a number and is none. The overlay repeated gives the same settings and the same fault. -/
theorem withEnvironment_leftToRight :
    Variable.all.map Variable.key = Setting.all.filterMap Setting.key? ∧
    Setting.all.filterMap Setting.key? =
      ["BIND_ADDRESS", "POLICY_PORT", "UPSTREAM_PORT", "CACHE_PORT", "RECEIPT_PORT", "DOH_PORT",
        "DOT_PORT", "POLICY_URL", "UPSTREAM_URL", "CACHE_URL", "RECEIPT_URL",
        "RESOLVER_TIMEOUT_MS", "UPSTREAMS", "UPSTREAM_RECORD_TYPE", "UPSTREAM_TTL",
        "UPSTREAM_RECORD", "QUORUM_REQUIRED", "RECEIPT_SECRET", "RECEIPT_DIR", "POLICY_CONFIG",
        "LOG_LEVEL"] ∧
    (Setting.all.filter (·.kind.isNumeric)).filterMap Setting.key? =
      ["POLICY_PORT", "UPSTREAM_PORT", "CACHE_PORT", "RECEIPT_PORT", "DOH_PORT", "DOT_PORT",
        "RESOLVER_TIMEOUT_MS", "UPSTREAM_TTL", "QUORUM_REQUIRED"] ∧
    (∃ laid rest, Setting.all = laid ++ rest ∧
      (∀ setting ∈ laid, ∀ given, setting.given? environment = some given →
        setting.kind.Means given (setting.get (settings.withEnvironment environment).1)) ∧
      (∀ setting, setting ∉ laid ∨ setting.given? environment = none →
        setting.get (settings.withEnvironment environment).1 = setting.get settings) ∧
      match rest with
      | [] => (settings.withEnvironment environment).2 = none
      | setting :: _ => ∃ key given, setting.key? = some key ∧
          setting.given? environment = some given ∧ setting.kind.isNumeric = true ∧
          (∀ value, ¬ setting.kind.Means given value) ∧
          (settings.withEnvironment environment).2 = some (.wrongVariable key given)) ∧
    ((settings.withEnvironment environment).2 ≠ none ↔
      ∃ setting given, Setting.given? environment setting = some given ∧
        setting.kind.isNumeric = true ∧ ∀ value, ¬ setting.kind.Means given value) ∧
    (settings.withEnvironment environment).1.withEnvironment environment =
      settings.withEnvironment environment := by
  refine ⟨rfl, rfl, rfl, ⟨Setting.faultless environment, Setting.unreached environment,
    List.takeWhile_append_dropWhile.symm, fun setting listed given said =>
      means_get_withEnvironment settings environment listed said, fun setting silent =>
      get_withEnvironment_of_silent settings environment silent, ?_⟩, ?_,
    withEnvironment_withEnvironment settings environment⟩
  · have fault := withEnvironment_fault_eq_head? settings environment
    cases left : Setting.unreached environment with
    | nil =>
      rw [left] at fault
      exact fault
    | cons setting behind =>
      rw [left, List.head?_cons, Option.bind_some] at fault
      obtain ⟨cause, found⟩ := Setting.faulty_of_unreached left
      obtain ⟨key, given, named, said, numeric, meaningless, rfl⟩ :=
        Setting.fault?_eq_some_iff.mp found
      exact ⟨key, given, named, said, numeric, meaningless, fault.trans found⟩
  · rw [withEnvironment_fault_ne_none_iff]
    constructor
    · rintro ⟨setting, fault, found⟩
      obtain ⟨key, given, -, said, numeric, meaningless, -⟩ :=
        Setting.fault?_eq_some_iff.mp found
      exact ⟨setting, given, said, numeric, meaningless⟩
    · rintro ⟨setting, given, said, numeric, meaningless⟩
      obtain ⟨key, named⟩ := Setting.exists_key_of_given? said
      exact ⟨setting, _, Setting.fault?_eq_some_iff.mpr
        ⟨key, given, named, said, numeric, meaningless, rfl⟩⟩

end Settings

end GatedResolver
