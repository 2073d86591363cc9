import GatedResolver.Name
import GatedResolver.Settings.Basic
import GatedResolver.Settings.Fault
import GatedResolver.Text.Blank
import GatedResolver.Text.Bytes

/-!
# Checking settings

Settings are checked before anything is built from them: the time limit, the name that
stands in for missing ones, the type of the record, and the addresses of collaborators.
No two services that run together may listen on one number.
-/

namespace GatedResolver

/-- Why a text is no address of a collaborator. -/
inductive UrlFault where
  | tooLong
  | wrongScheme
deriving DecidableEq

/-- The fault of an address in words. -/
def UrlFault.message : UrlFault → String
  | .tooLong => "URL cannot exceed 2048 characters"
  | .wrongScheme => "URL must start with http:// or https://"

/-- What is wrong with a text as an address. -/
def urlFault? (url : String) : Option UrlFault :=
  if 2048 < url.utf8ByteSize then some .tooLong
  else if "http://".toList.isPrefixOf url.toList || "https://".toList.isPrefixOf url.toList then
    none
  else some .wrongScheme

namespace Settings

/-- Check the addresses of collaborators, in order. -/
def checkUrls : List (String × Option String) → Except SettingsFault Unit
  | [] => .ok ()
  | (key, url) :: rest =>
    match url.bind urlFault? with
    | some fault => .error (.refused (key ++ ": " ++ fault.message))
    | none => checkUrls rest

/-- Check settings. The first thing that is wrong is told. -/
def validate (settings : Settings) : Except SettingsFault Unit :=
  if settings.resolver.timeoutMs = 0 then
    .error (.refused "resolver.timeout_ms must be greater than zero")
  else
    match nameFault? settings.resolver.defaultName with
    | some fault => .error (.refused ("resolver.default_name: " ++ fault.message))
    | none =>
      if Text.isBlankText settings.quorum.recordType then
        .error (.refused "upstream.record_type cannot be empty")
      else
        checkUrls [("resolver.policy_url", settings.resolver.policyUrl),
          ("resolver.upstream_url", settings.resolver.quorumUrl),
          ("resolver.cache_url", settings.resolver.cacheUrl),
          ("resolver.receipt_url", settings.resolver.receiptUrl)]

/-- The service among earlier ones that listens on a number, the latest one first. -/
def holder? (server : ServerSettings) (listener : UInt16) : List Service → Option Service
  | [] => none
  | service :: earlier =>
    if server.listener service = listener then some service else holder? server listener earlier

/-- Look for two services that listen on one number, where `earlier` are the services that
were looked at, the latest first. -/
def conflictAmong (server : ServerSettings) (earlier : List Service) :
    List Service → Option (Service × Service)
  | [] => none
  | service :: rest =>
    match holder? server (server.listener service) earlier with
    | some other => some (other, service)
    | none => conflictAmong server (service :: earlier) rest

/-- Two services of a list of labels that listen on one number. -/
def conflict? (server : ServerSettings) (labels : List String) : Option (Service × Service) :=
  conflictAmong server [] (Service.all.filter fun service => labels.contains service.label)

/-- Check that no two services of a list of labels listen on one number. Labels that no
service has are passed over. -/
def checkListeners (settings : Settings) (labels : List String) : Except SettingsFault Unit :=
  match conflict? settings.server labels with
  | some (other, service) =>
    .error (.refused (other.label ++ " and " ++ service.label ++ " both configured on port " ++
      Text.decimal (settings.server.listener service).toNat))
  | none => .ok ()

end Settings

end GatedResolver
