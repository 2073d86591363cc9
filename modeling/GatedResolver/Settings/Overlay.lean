import GatedResolver.Settings.Basic
import GatedResolver.Settings.Fault
import GatedResolver.Text.Decimal
import GatedResolver.Text.Split

/-!
# Laying settings over one another

Variables of the environment are laid over the settings of a file, one after the other in
a fixed order, and options of the command line over both. A variable that is not set, or
is blank, leaves its setting alone; the first one that cannot be read stops the overlay.
-/

namespace GatedResolver

/-- The items between commas, without the blanks around them and without blank items. -/
def memberList (text : String) : List String :=
  ((Text.split ',' text.toList).map fun part => String.ofList (Text.trimList part)).filter
    fun item => !item.isEmpty

/-- A variable of the environment and the setting that it gives; `lay` is none if its text
cannot be read. -/
structure Variable where
  key : String
  lay : String → Settings → Option Settings

namespace Variable

/-- A variable whose text is taken as it stands. -/
def text (key : String) (lay : String → Settings → Settings) : Variable :=
  ⟨key, fun value settings => some (lay value settings)⟩

/-- A variable that is a number below a limit. -/
def number (key : String) (limit : Nat) (lay : Nat → Settings → Settings) : Variable :=
  ⟨key, fun value settings =>
    (Text.readDecimal? limit (Text.trim value)).map fun number => lay number settings⟩

/-- A variable that is the number of a listener. -/
def listener (key : String) (lay : UInt16 → ServerSettings → ServerSettings) : Variable :=
  number key 65536 fun value settings =>
    { settings with server := lay (UInt16.ofNat value) settings.server }

/-- A variable that is an address of a collaborator. -/
def url (key : String) (lay : String → ResolverSettings → ResolverSettings) : Variable :=
  text key fun value settings => { settings with resolver := lay value settings.resolver }

/-- All variables, in the order in which they are laid over the settings. -/
def all : List Variable := [
  text "BIND_ADDRESS" fun value settings =>
    { settings with server := { settings.server with bindAddress := value } },
  listener "POLICY_PORT" fun value server => { server with policyListener := value },
  listener "UPSTREAM_PORT" fun value server => { server with quorumListener := value },
  listener "CACHE_PORT" fun value server => { server with cacheListener := value },
  listener "RECEIPT_PORT" fun value server => { server with receiptListener := value },
  listener "DOH_PORT" fun value server => { server with dohListener := value },
  listener "DOT_PORT" fun value server => { server with dotListener := value },
  url "POLICY_URL" fun value resolver => { resolver with policyUrl := some value },
  url "UPSTREAM_URL" fun value resolver => { resolver with quorumUrl := some value },
  url "CACHE_URL" fun value resolver => { resolver with cacheUrl := some value },
  url "RECEIPT_URL" fun value resolver => { resolver with receiptUrl := some value },
  number "RESOLVER_TIMEOUT_MS" 18446744073709551616 fun value settings =>
    { settings with resolver := { settings.resolver with timeoutMs := UInt64.ofNat value } },
  text "UPSTREAMS" fun value settings =>
    { settings with quorum := { settings.quorum with members := memberList value } },
  text "UPSTREAM_RECORD_TYPE" fun value settings =>
    { settings with quorum := { settings.quorum with recordType := value } },
  number "UPSTREAM_TTL" 4294967296 fun value settings =>
    { settings with quorum := { settings.quorum with ttl := UInt32.ofNat value } },
  text "UPSTREAM_RECORD" fun value settings =>
    { settings with quorum := { settings.quorum with data := value } },
  number "QUORUM_REQUIRED" 4294967296 fun value settings =>
    { settings with quorum := { settings.quorum with required := some (UInt32.ofNat value) } },
  text "RECEIPT_SECRET" fun value settings =>
    { settings with receipt := { settings.receipt with secret := some value } },
  text "RECEIPT_DIR" fun value settings =>
    { settings with receipt := { settings.receipt with directory := value } },
  text "POLICY_CONFIG" fun value settings => { settings with policy := ⟨value⟩ },
  text "LOG_LEVEL" fun value settings => { settings with logging := ⟨value⟩ }]

end Variable

/-- What the variables of the environment are set to. -/
abbrev Environment := String → Option String

/-- Options of the command line that give settings. -/
structure Options where
  bindAddress : Option String := none
  dohListener : Option UInt16 := none
  dotListener : Option UInt16 := none
  receiptDirectory : Option String := none
  logLevel : Option String := none
deriving DecidableEq

namespace Settings

/-- Lay variables over settings, in order. With a fault come the settings as they were laid
up to it. -/
def overlay (environment : Environment) (settings : Settings) :
    List Variable → Settings × Option SettingsFault
  | [] => (settings, none)
  | next :: rest =>
    match environment next.key with
    | none => overlay environment settings rest
    | some value =>
      if Text.isBlankText value then overlay environment settings rest
      else
        match next.lay value settings with
        | some changed => overlay environment changed rest
        | none => (settings, some (.wrongVariable next.key value))

/-- Lay the environment over settings. -/
def withEnvironment (settings : Settings) (environment : Environment) :
    Settings × Option SettingsFault :=
  overlay environment settings Variable.all

/-- Lay options of the command line over settings. -/
def withOptions (settings : Settings) (options : Options) : Settings :=
  { settings with
    server :=
      { settings.server with
        bindAddress := options.bindAddress.getD settings.server.bindAddress
        dohListener := options.dohListener.getD settings.server.dohListener
        dotListener := options.dotListener.getD settings.server.dotListener }
    receipt :=
      { settings.receipt with
        directory := options.receiptDirectory.getD settings.receipt.directory }
    logging := ⟨options.logLevel.getD settings.logging.level⟩ }

end Settings

end GatedResolver
