import GatedResolver.Settings.Overlay

/-!
# Single settings

A setting is a place in the settings that can be looked at and changed without touching any
other. What can stand there is of a few kinds; the kind says how the text of a variable is
understood, and the setting says which variable that is, if there is one.
-/

namespace GatedResolver

/-- The kinds of values that settings have. -/
inductive SettingKind where
  | text
  | optionalText
  | word16
  | word32
  | optionalWord32
  | word64
  | texts
deriving DecidableEq

namespace SettingKind

/-- The values of a kind. -/
abbrev Value : SettingKind → Type
  | .text => String
  | .optionalText => Option String
  | .word16 => UInt16
  | .word32 => UInt32
  | .optionalWord32 => Option UInt32
  | .word64 => UInt64
  | .texts => List String

/-- Whether the text of a variable has to be a number. -/
def isNumeric : SettingKind → Bool
  | .word16 | .word32 | .optionalWord32 | .word64 => true
  | .text | .optionalText | .texts => false

/-- The value that the text of a variable stands for. -/
def parse? : (kind : SettingKind) → String → Option kind.Value
  | .text, given => some given
  | .optionalText, given => some (some given)
  | .word16, given => (Text.readDecimal? 65536 (Text.trim given)).map UInt16.ofNat
  | .word32, given => (Text.readDecimal? 4294967296 (Text.trim given)).map UInt32.ofNat
  | .optionalWord32, given =>
    (Text.readDecimal? 4294967296 (Text.trim given)).map fun number => some (UInt32.ofNat number)
  | .word64, given =>
    (Text.readDecimal? 18446744073709551616 (Text.trim given)).map UInt64.ofNat
  | .texts, given => some (memberList given)

/-- Only a number can fail to be understood. -/
theorem isNumeric_of_parse?_eq_none {kind : SettingKind} {given : String}
    (misunderstood : kind.parse? given = none) : kind.isNumeric = true := by
  cases kind with
  | word16 | word32 | optionalWord32 | word64 => rfl
  | text | optionalText | texts => cases misunderstood

end SettingKind

/-- All settings, one by one. -/
inductive Setting where
  | bindAddress
  | policyListener
  | quorumListener
  | cacheListener
  | receiptListener
  | dohListener
  | dotListener
  | policyUrl
  | quorumUrl
  | cacheUrl
  | receiptUrl
  | timeoutMs
  | defaultName
  | members
  | recordType
  | ttl
  | data
  | required
  | secret
  | directory
  | policyPath
  | logLevel
deriving DecidableEq

namespace Setting

/-- The kind of a setting. -/
abbrev kind : Setting → SettingKind
  | .bindAddress | .defaultName | .recordType | .data | .directory | .policyPath | .logLevel =>
    .text
  | .policyUrl | .quorumUrl | .cacheUrl | .receiptUrl | .secret => .optionalText
  | .policyListener | .quorumListener | .cacheListener | .receiptListener | .dohListener
  | .dotListener => .word16
  | .ttl => .word32
  | .required => .optionalWord32
  | .timeoutMs => .word64
  | .members => .texts

/-- What a setting is set to. -/
def get (settings : Settings) : (setting : Setting) → setting.kind.Value
  | .bindAddress => settings.server.bindAddress
  | .policyListener => settings.server.policyListener
  | .quorumListener => settings.server.quorumListener
  | .cacheListener => settings.server.cacheListener
  | .receiptListener => settings.server.receiptListener
  | .dohListener => settings.server.dohListener
  | .dotListener => settings.server.dotListener
  | .policyUrl => settings.resolver.policyUrl
  | .quorumUrl => settings.resolver.quorumUrl
  | .cacheUrl => settings.resolver.cacheUrl
  | .receiptUrl => settings.resolver.receiptUrl
  | .timeoutMs => settings.resolver.timeoutMs
  | .defaultName => settings.resolver.defaultName
  | .members => settings.quorum.members
  | .recordType => settings.quorum.recordType
  | .ttl => settings.quorum.ttl
  | .data => settings.quorum.data
  | .required => settings.quorum.required
  | .secret => settings.receipt.secret
  | .directory => settings.receipt.directory
  | .policyPath => settings.policy.path
  | .logLevel => settings.logging.level

/-- Change one setting. -/
def set (settings : Settings) : (setting : Setting) → setting.kind.Value → Settings
  | .bindAddress, value => { settings with server.bindAddress := value }
  | .policyListener, value => { settings with server.policyListener := value }
  | .quorumListener, value => { settings with server.quorumListener := value }
  | .cacheListener, value => { settings with server.cacheListener := value }
  | .receiptListener, value => { settings with server.receiptListener := value }
  | .dohListener, value => { settings with server.dohListener := value }
  | .dotListener, value => { settings with server.dotListener := value }
  | .policyUrl, value => { settings with resolver.policyUrl := value }
  | .quorumUrl, value => { settings with resolver.quorumUrl := value }
  | .cacheUrl, value => { settings with resolver.cacheUrl := value }
  | .receiptUrl, value => { settings with resolver.receiptUrl := value }
  | .timeoutMs, value => { settings with resolver.timeoutMs := value }
  | .defaultName, value => { settings with resolver.defaultName := value }
  | .members, value => { settings with quorum.members := value }
  | .recordType, value => { settings with quorum.recordType := value }
  | .ttl, value => { settings with quorum.ttl := value }
  | .data, value => { settings with quorum.data := value }
  | .required, value => { settings with quorum.required := value }
  | .secret, value => { settings with receipt.secret := value }
  | .directory, value => { settings with receipt.directory := value }
  | .policyPath, value => { settings with policy.path := value }
  | .logLevel, value => { settings with logging.level := value }

/-- A setting that is changed is set to what it was changed to. -/
@[simp] theorem get_set (settings : Settings) (setting : Setting) (value : setting.kind.Value) :
    setting.get (setting.set settings value) = value := by
  cases setting <;> rfl

/-- A setting stays what it is when another one is changed. -/
theorem get_set_of_ne (settings : Settings) {setting other : Setting} (differ : setting ≠ other)
    (value : other.kind.Value) :
    setting.get (other.set settings value) = setting.get settings := by
  cases other <;> cases setting <;> first | rfl | exact absurd rfl differ

/-- The variable of the environment that gives a setting. The default name has none. -/
def key? : Setting → Option String
  | .bindAddress => some "BIND_ADDRESS"
  | .policyListener => some "POLICY_PORT"
  | .quorumListener => some "UPSTREAM_PORT"
  | .cacheListener => some "CACHE_PORT"
  | .receiptListener => some "RECEIPT_PORT"
  | .dohListener => some "DOH_PORT"
  | .dotListener => some "DOT_PORT"
  | .policyUrl => some "POLICY_URL"
  | .quorumUrl => some "UPSTREAM_URL"
  | .cacheUrl => some "CACHE_URL"
  | .receiptUrl => some "RECEIPT_URL"
  | .timeoutMs => some "RESOLVER_TIMEOUT_MS"
  | .defaultName => none
  | .members => some "UPSTREAMS"
  | .recordType => some "UPSTREAM_RECORD_TYPE"
  | .ttl => some "UPSTREAM_TTL"
  | .data => some "UPSTREAM_RECORD"
  | .required => some "QUORUM_REQUIRED"
  | .secret => some "RECEIPT_SECRET"
  | .directory => some "RECEIPT_DIR"
  | .policyPath => some "POLICY_CONFIG"
  | .logLevel => some "LOG_LEVEL"

/-- All settings, those with a variable in the order in which the variables are laid over
the settings. -/
def all : List Setting :=
  [.bindAddress, .policyListener, .quorumListener, .cacheListener, .receiptListener,
    .dohListener, .dotListener, .policyUrl, .quorumUrl, .cacheUrl, .receiptUrl, .timeoutMs,
    .defaultName, .members, .recordType, .ttl, .data, .required, .secret, .directory,
    .policyPath, .logLevel]

/-- Every setting is among all settings. -/
theorem mem_all (setting : Setting) : setting ∈ all := by
  cases setting <;> decide

/-- The variable of a setting: its text is understood in the way of the kind. -/
def variableOf? (setting : Setting) : Option Variable :=
  setting.key?.map fun key =>
    ⟨key, fun given settings => (setting.kind.parse? given).map (setting.set settings)⟩

end Setting

/-- The variables are those of all settings. -/
theorem Variable.all_eq_filterMap : Variable.all = Setting.all.filterMap Setting.variableOf? := by
  simp [Variable.all, Setting.all, Setting.variableOf?, Setting.key?, SettingKind.parse?,
    Setting.set, Variable.text, Variable.number, Variable.listener, Variable.url,
    List.filterMap_cons, Function.comp_def]

end GatedResolver
