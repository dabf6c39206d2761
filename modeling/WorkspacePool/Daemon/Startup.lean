import WorkspacePool.Broker.Error
import WorkspacePool.Dialogue
import WorkspacePool.Log.Filter
import WorkspacePool.Provision.Error
import WorkspacePool.Settings.Config
import WorkspacePool.Token.Service

/-!
How the daemon starts: it reads its configuration, finds what makes the workspaces, then the token
service, and joins the message broker. The first step that fails ends it.
-/

namespace WorkspacePool.Daemon

open Settings (Config Environment Fault)

/-- Why the daemon does not start. -/
inductive StartupError where
  | configuration (cause : Fault)
  | cluster (cause : ProvisionError)
  | slots (cause : ProvisionError)
  | tokens (cause : TokenError)
  | broker (cause : BrokerError)
deriving DecidableEq, Repr

namespace StartupError

/-- The step that failed. -/
def message : StartupError → String
  | .configuration _ => "invalid configuration"
  | .cluster _ => "connecting to kubernetes"
  | .slots _ => "preparing workspace slots"
  | .tokens _ => "building token client"
  | .broker _ => "connecting to broker"

/-- Why it failed. -/
def cause : StartupError → String
  | .configuration cause => cause.message
  | .cluster cause => cause.message
  | .slots cause => cause.message
  | .tokens cause => cause.message
  | .broker cause => cause.message

/-- An error as the daemon's last words. -/
def report (error : StartupError) : String :=
  "Error: " ++ error.message ++ "\n\nCaused by:\n    " ++ error.cause

end StartupError

/-- What the daemon does while it starts. -/
inductive Action where
  | log (record : Log.Record)
  | connectCluster (settings : Kubernetes.Settings)
  | prepareSlots (count : UInt32)
  | connectBroker (url : String) (limit : Span)
deriving DecidableEq, Repr

/-- What comes of an action. -/
def Action.Outcome : Action → Type
  | .log _ => Unit
  | .connectCluster _ | .prepareSlots _ => Except ProvisionError Unit
  | .connectBroker _ _ => Except BrokerError Unit

/-- A start asks for one action after the other. -/
abbrev Startup (α : Type) := Dialogue Action.Outcome α

/-- A start that is a single action. -/
def Action.alone (action : Action) : Startup action.Outcome := Dialogue.question action

/-- The name that the daemon's records go by. -/
def logTarget : String := "berthd"

/-- The record that tells what the daemon starts with. -/
def startRecord (config : Config) : Log.Record where
  verbosity := .info
  target := logTarget
  message := "starting berthd"
  fields := [("backend", .text config.backend.name), ("slots", .count config.slotCount.toNat),
    ("queue_size", .count config.queueSize), ("queue", .text config.requestQueue)]

/-- The record that tells that there is no token service. -/
def noTokensRecord : Log.Record where
  verbosity := .info
  target := logTarget
  message := "no token service configured, github token lookup disabled"
  fields := []

/-- The daemon once it has started. -/
structure Running where
  config : Config
  tokens : Option TokenService
deriving DecidableEq, Repr

namespace Startup

/-- Find what makes the workspaces. A cluster has to have its slots ready; containers are made when
they are needed. -/
def openBackend (config : Config) : Startup (Except StartupError Unit) :=
  match config.backend with
  | .docker => return .ok ()
  | .kubernetes => do
      let connected : Except ProvisionError Unit ← Action.alone (.connectCluster config.kubernetes)
      match connected with
      | .error cause => return .error (.cluster cause)
      | .ok () =>
          let prepared : Except ProvisionError Unit ← Action.alone (.prepareSlots config.slotCount)
          return prepared.mapError .slots

/-- Find the token service, if one is configured. -/
def openTokens (config : Config) : Startup (Except StartupError (Option TokenService)) :=
  match config.tokenUrl with
  | some url => return ((TokenService.ofText url).map some).mapError .tokens
  | none => do
      let _ : Unit ← Action.alone (.log noTokensRecord)
      return .ok none

def joinBroker (config : Config) : Startup (Except StartupError Unit) := do
  let joined : Except BrokerError Unit ←
    Action.alone (.connectBroker config.amqpUrl config.connectTimeout)
  return joined.mapError .broker

/-- Start the daemon with a configuration. -/
def launch (config : Config) : Startup (Except StartupError Running) := do
  let _ : Unit ← Action.alone (.log (startRecord config))
  match ← openBackend config with
  | .error error => return .error error
  | .ok () =>
      match ← openTokens config with
      | .error error => return .error error
      | .ok tokens =>
          match ← joinBroker config with
          | .error error => return .error error
          | .ok () => return .ok ⟨config, tokens⟩

/-- Start the daemon in an environment. -/
def start (environment : Environment) : Startup (Except StartupError Running) :=
  match Config.ofEnvironment environment with
  | .error fault => return .error (.configuration fault)
  | .ok config => launch config

/-- What the daemon finds around it. -/
structure Surroundings where
  cluster : Except ProvisionError Unit
  slots : Except ProvisionError Unit
  broker : Except BrokerError Unit

/-- A start among given surroundings, and the records made on the way. -/
def among {α : Type} (surroundings : Surroundings) : Startup α → α × List Log.Record
  | .done result => (result, [])
  | .ask (.log record) next =>
      let (result, records) := among surroundings (next ())
      (result, record :: records)
  | .ask (.connectCluster _) next => among surroundings (next surroundings.cluster)
  | .ask (.prepareSlots _) next => among surroundings (next surroundings.slots)
  | .ask (.connectBroker _ _) next => among surroundings (next surroundings.broker)

end Startup

end WorkspacePool.Daemon
