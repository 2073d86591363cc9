import GatedResolver.Json.Decode

/-!
# Settings

What an operator can choose: where the services listen, where the collaborators of the
resolver are, what the quorum answers, where receipts go and how they are signed, where
the policy document is, and how much is logged. Every setting has a default, so that a
document may leave out any of them.
-/

namespace GatedResolver

/-- The services of the program. -/
inductive Service where
  | policy
  | quorum
  | cache
  | receipt
  | doh
  | dot
deriving DecidableEq

namespace Service

/-- The label of a service. -/
def label : Service → String
  | .policy => "policy"
  | .quorum => "upstream"
  | .cache => "cache"
  | .receipt => "receipt"
  | .doh => "doh"
  | .dot => "dot"

/-- All services, in the order in which they are looked at and started. -/
def all : List Service :=
  [.policy, .quorum, .cache, .receipt, .doh, .dot]

/-- The service with a label. -/
def ofLabel? (label : String) : Option Service :=
  all.find? fun service => service.label = label

end Service

/-- Where the services listen. -/
structure ServerSettings where
  bindAddress : String := "0.0.0.0"
  policyListener : UInt16 := 7080
  quorumListener : UInt16 := 7081
  cacheListener : UInt16 := 7082
  receiptListener : UInt16 := 7083
  dohListener : UInt16 := 8053
  dotListener : UInt16 := 8853
deriving DecidableEq

/-- Where the collaborators of the resolver are, and how long it waits for each. -/
structure ResolverSettings where
  policyUrl : Option String := none
  quorumUrl : Option String := none
  cacheUrl : Option String := none
  receiptUrl : Option String := none
  timeoutMs : UInt64 := 2000
  defaultName : String := "example.com"
deriving DecidableEq

/-- The members of the quorum and what they answer. -/
structure QuorumSettings where
  members : List String := ["cloudflare", "google"]
  recordType : String := "A"
  ttl : UInt32 := 60
  data : String := "203.0.113.10"
  required : Option UInt32 := none
deriving DecidableEq

/-- How receipts are signed and where they are kept. -/
structure ReceiptSettings where
  secret : Option String := none
  directory : String := "./receipts"
deriving DecidableEq

/-- Where the policy document is. -/
structure PolicySettings where
  path : String := "./config/policy.json"
deriving DecidableEq

/-- How much is logged. -/
structure LoggingSettings where
  level : String := "info"
deriving DecidableEq

/-- All settings. -/
structure Settings where
  server : ServerSettings := {}
  resolver : ResolverSettings := {}
  quorum : QuorumSettings := {}
  receipt : ReceiptSettings := {}
  policy : PolicySettings := {}
  logging : LoggingSettings := {}
deriving DecidableEq

open Json (Fields Decoder Value)

namespace ServerSettings

/-- The number that a service listens on. -/
def listener (settings : ServerSettings) : Service → UInt16
  | .policy => settings.policyListener
  | .quorum => settings.quorumListener
  | .cache => settings.cacheListener
  | .receipt => settings.receiptListener
  | .doh => settings.dohListener
  | .dot => settings.dotListener

/-- The address of a listener. -/
def address (settings : ServerSettings) (listener : UInt16) : String :=
  settings.bindAddress ++ ":" ++ Text.decimal listener.toNat

/-- The settings as a JSON value. -/
def toJson (settings : ServerSettings) : Value :=
  .object [("bind_address", .string settings.bindAddress),
    ("policy_port", .ofUInt16 settings.policyListener),
    ("upstream_port", .ofUInt16 settings.quorumListener),
    ("cache_port", .ofUInt16 settings.cacheListener),
    ("receipt_port", .ofUInt16 settings.receiptListener),
    ("doh_port", .ofUInt16 settings.dohListener),
    ("dot_port", .ofUInt16 settings.dotListener)]

/-- The fields of the settings. -/
def fields : Fields ServerSettings :=
  let default : ServerSettings := {}
  ((Fields.defaulted "bind_address" Decoder.text default.bindAddress).both
    ((Fields.defaulted "policy_port" Decoder.uint16 default.policyListener).both
      ((Fields.defaulted "upstream_port" Decoder.uint16 default.quorumListener).both
        ((Fields.defaulted "cache_port" Decoder.uint16 default.cacheListener).both
          ((Fields.defaulted "receipt_port" Decoder.uint16 default.receiptListener).both
            ((Fields.defaulted "doh_port" Decoder.uint16 default.dohListener).both
              (Fields.defaulted "dot_port" Decoder.uint16 default.dotListener))))))).map
      fun (bindAddress, policy, quorum, cache, receipt, doh, dot) =>
        ⟨bindAddress, policy, quorum, cache, receipt, doh, dot⟩

/-- Read the settings. -/
def decoder : Decoder ServerSettings :=
  .record "ServerConfig" fields

end ServerSettings

namespace ResolverSettings

/-- The settings as a JSON value. -/
def toJson (settings : ResolverSettings) : Value :=
  .object [("policy_url", .ofOption .string settings.policyUrl),
    ("upstream_url", .ofOption .string settings.quorumUrl),
    ("cache_url", .ofOption .string settings.cacheUrl),
    ("receipt_url", .ofOption .string settings.receiptUrl),
    ("timeout_ms", .ofUInt64 settings.timeoutMs),
    ("default_name", .string settings.defaultName)]

/-- A field with an address that may be absent. -/
def urlField (name : String) : Fields (Option String) :=
  Fields.defaulted name (.nullable .text) none

/-- The fields of the settings. -/
def fields : Fields ResolverSettings :=
  let default : ResolverSettings := {}
  ((urlField "policy_url").both
    ((urlField "upstream_url").both
      ((urlField "cache_url").both
        ((urlField "receipt_url").both
          ((Fields.defaulted "timeout_ms" Decoder.uint64 default.timeoutMs).both
            (Fields.defaulted "default_name" Decoder.text default.defaultName)))))).map
      fun (policyUrl, quorumUrl, cacheUrl, receiptUrl, timeoutMs, defaultName) =>
        ⟨policyUrl, quorumUrl, cacheUrl, receiptUrl, timeoutMs, defaultName⟩

/-- Read the settings. -/
def decoder : Decoder ResolverSettings :=
  .record "ResolverConfig" fields

end ResolverSettings

namespace QuorumSettings

/-- The settings as a JSON value. -/
def toJson (settings : QuorumSettings) : Value :=
  .object [("upstreams", .array (settings.members.map .string)),
    ("record_type", .string settings.recordType), ("ttl", .ofUInt32 settings.ttl),
    ("data", .string settings.data),
    ("quorum_required", .ofOption .ofUInt32 settings.required)]

/-- The fields of the settings. -/
def fields : Fields QuorumSettings :=
  let default : QuorumSettings := {}
  ((Fields.defaulted "upstreams" (Decoder.list .text) default.members).both
    ((Fields.defaulted "record_type" Decoder.text default.recordType).both
      ((Fields.defaulted "ttl" Decoder.uint32 default.ttl).both
        ((Fields.defaulted "data" Decoder.text default.data).both
          (Fields.defaulted "quorum_required" (Decoder.nullable .uint32) default.required))))).map
      fun (members, recordType, ttl, data, required) =>
        ⟨members, recordType, ttl, data, required⟩

/-- Read the settings. -/
def decoder : Decoder QuorumSettings :=
  .record "UpstreamConfig" fields

end QuorumSettings

namespace ReceiptSettings

/-- The settings as a JSON value. -/
def toJson (settings : ReceiptSettings) : Value :=
  .object [("secret", .ofOption .string settings.secret),
    ("directory", .string settings.directory)]

/-- The fields of the settings. -/
def fields : Fields ReceiptSettings :=
  let default : ReceiptSettings := {}
  ((Fields.defaulted "secret" (Decoder.nullable .text) default.secret).both
    (Fields.defaulted "directory" Decoder.text default.directory)).map
      fun (secret, directory) => ⟨secret, directory⟩

/-- Read the settings. -/
def decoder : Decoder ReceiptSettings :=
  .record "ReceiptConfig" fields

end ReceiptSettings

namespace PolicySettings

/-- The settings as a JSON value. -/
def toJson (settings : PolicySettings) : Value :=
  .object [("config_path", .string settings.path)]

/-- Read the settings. -/
def decoder : Decoder PolicySettings :=
  .record "PolicyConfig"
    ((Fields.defaulted "config_path" Decoder.text ({} : PolicySettings).path).map
      fun path => ⟨path⟩)

end PolicySettings

namespace LoggingSettings

/-- The settings as a JSON value. -/
def toJson (settings : LoggingSettings) : Value :=
  .object [("level", .string settings.level)]

/-- Read the settings. -/
def decoder : Decoder LoggingSettings :=
  .record "LoggingConfig"
    ((Fields.defaulted "level" Decoder.text ({} : LoggingSettings).level).map
      fun level => ⟨level⟩)

end LoggingSettings

namespace Settings

/-- The settings as a JSON value. -/
def toJson (settings : Settings) : Value :=
  .object [("server", settings.server.toJson), ("resolver", settings.resolver.toJson),
    ("upstream", settings.quorum.toJson), ("receipt", settings.receipt.toJson),
    ("policy", settings.policy.toJson), ("logging", settings.logging.toJson)]

/-- The sections of the settings. -/
def fields : Fields Settings :=
  ((Fields.defaulted "server" ServerSettings.decoder {}).both
    ((Fields.defaulted "resolver" ResolverSettings.decoder {}).both
      ((Fields.defaulted "upstream" QuorumSettings.decoder {}).both
        ((Fields.defaulted "receipt" ReceiptSettings.decoder {}).both
          ((Fields.defaulted "policy" PolicySettings.decoder {}).both
            (Fields.defaulted "logging" LoggingSettings.decoder {})))))).map
      fun (server, resolver, quorum, receipt, policy, logging) =>
        ⟨server, resolver, quorum, receipt, policy, logging⟩

/-- Read the settings. -/
def decoder : Decoder Settings :=
  .record "Config" fields

end Settings

end GatedResolver
