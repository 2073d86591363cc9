import GatedResolver.CommandLine.Arguments
import GatedResolver.Deployment.Listeners
import GatedResolver.Settings.Address
import GatedResolver.Settings.Load

/-!
# Starting up

A process loads its settings, looks for services that would listen on one number, builds
its components, and wires a listener for each service. The first thing that goes wrong is
reported and ends the process.
-/

namespace GatedResolver.CommandLine

/-- Why a process cannot start. -/
inductive StartFault where
  | settings (fault : SettingsFault)
  | components (failure : Failure)
  | wiring (fault : WiringFault)
  /-- The services cannot listen on the address that is configured. -/
  | address
deriving DecidableEq

namespace StartFault

/-- A fault in words. -/
def message : StartFault → String
  | .settings fault => fault.message
  | .components failure => failure.message
  | .wiring fault => fault.message
  | .address => "invalid socket address syntax"

/-- What lies behind a fault. -/
def cause? : StartFault → Option String
  | .settings (.unreadable _ reason) => some reason
  | .settings (.wrongValue fault) => some (settingsFaultText fault)
  | _ => none

/-- What a process that cannot start writes for its operator. -/
def report (fault : StartFault) : String :=
  let cause :=
    match fault.cause? with
    | some cause => "\n\nCaused by:\n    " ++ cause
    | none => ""
  "Error: " ++ fault.message ++ cause ++ "\n"

end StartFault

/-- A process that has its settings and its components. -/
structure Launch where
  settings : Settings
  services : List Service
  components : Components

/-- Load the settings of an invocation, and check them for its services. -/
def settingsOf (invocation : Invocation) (files : FileSystem) (environment : Environment) :
    Except StartFault Settings :=
  let labels := invocation.command.services.map Service.label
  let choices := invocation.choices
  (Settings.loadFor labels files choices.settingsFile environment choices.options).mapError
    StartFault.settings

/-- Start a process, where `random` is the secret of receipts in case that none is
configured. -/
def start (invocation : Invocation) (files : FileSystem) (environment : Environment)
    (transport : Components → Components.Transport) (random : Bytes) :
    Except StartFault (Launch × List Listener) := do
  let settings ← settingsOf invocation files environment
  let services := invocation.command.services
  let components ← (Components.ofSettings settings services random).mapError StartFault.components
  let listeners ←
    services.mapM fun service =>
      (components.listener settings (transport components) service).mapError StartFault.wiring
  if Address.isListenable settings.server.bindAddress then
    return (⟨settings, services, components⟩, listeners)
  else throw .address

end GatedResolver.CommandLine
