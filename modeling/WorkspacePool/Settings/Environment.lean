import WorkspacePool.Text.Blank
import WorkspacePool.Text.Quoted

/-!
Environment variables the daemon is configured by. A value is trimmed, and a value that is blank or
no valid text counts as not set.
-/

namespace WorkspacePool.Settings

/-- The variable names the daemon knows. -/
inductive Key where
  | amqpUrl
  | workspaceBrokerUrl
  | requestQueue
  | connectTimeoutMs
  | backend
  | slotCount
  | queueSize
  | k8sNamespace
  | slotImage
  | slotPrefix
  | terminalPort
  | previewPort
  | readyTimeoutSecs
  | readyPollMs
  | idleTimeoutSecs
  | pauseIntervalSecs
  | queueIntervalSecs
  | tokenUrl
  | logFormat
deriving DecidableEq, Repr

namespace Key

def name : Key → String
  | .amqpUrl => "BERTH_AMQP_URL"
  | .workspaceBrokerUrl => "BERTH_WORKSPACE_BROKER_URL"
  | .requestQueue => "BERTH_REQUEST_QUEUE"
  | .connectTimeoutMs => "BERTH_CONNECT_TIMEOUT_MS"
  | .backend => "BERTH_BACKEND"
  | .slotCount => "BERTH_SLOT_COUNT"
  | .queueSize => "BERTH_QUEUE_SIZE"
  | .k8sNamespace => "BERTH_K8S_NAMESPACE"
  | .slotImage => "BERTH_SLOT_IMAGE"
  | .slotPrefix => "BERTH_SLOT_PREFIX"
  | .terminalPort => "BERTH_TERMINAL_PORT"
  | .previewPort => "BERTH_PREVIEW_PORT"
  | .readyTimeoutSecs => "BERTH_READY_TIMEOUT_SECS"
  | .readyPollMs => "BERTH_READY_POLL_MS"
  | .idleTimeoutSecs => "BERTH_IDLE_TIMEOUT_SECS"
  | .pauseIntervalSecs => "BERTH_PAUSE_INTERVAL_SECS"
  | .queueIntervalSecs => "BERTH_QUEUE_INTERVAL_SECS"
  | .tokenUrl => "BERTH_TOKEN_URL"
  | .logFormat => "BERTH_LOG_FORMAT"

def all : List Key :=
  [.amqpUrl, .workspaceBrokerUrl, .requestQueue, .connectTimeoutMs, .backend, .slotCount,
    .queueSize, .k8sNamespace, .slotImage, .slotPrefix, .terminalPort, .previewPort,
    .readyTimeoutSecs, .readyPollMs, .idleTimeoutSecs, .pauseIntervalSecs, .queueIntervalSecs,
    .tokenUrl, .logFormat]

end Key

/-- What each variable is set to, in bytes. -/
abbrev Environment := Key → Option (List UInt8)

namespace Environment

/-- The environment that a list of settings makes up. The first setting of a name counts. -/
def ofList (settings : List (String × List UInt8)) : Environment :=
  fun key => settings.lookup key.name

/-- The trimmed value of a variable, if it is present. -/
def value? (environment : Environment) (key : Key) : Option String := do
  let bytes ← environment key
  let text ← String.fromUTF8? bytes.toByteArray
  let value := Text.trim text
  if value == "" then none else some value

end Environment

/-- Why an environment is refused. -/
inductive Fault where
  | invalid (key : Key) (value : String)
  | zero (key : Key)
deriving DecidableEq, Repr

namespace Fault

def message : Fault → String
  | .invalid key value =>
      "invalid value for " ++ key.name ++ ": " ++ Text.Quoted.quote value
  | .zero key => key.name ++ " must be at least 1"

end Fault

namespace Environment

/-- The value of a variable, read in its type. -/
def read? {α : Type} (environment : Environment) (key : Key) (read : String → Option α) :
    Except Fault (Option α) :=
  match environment.value? key with
  | none => .ok none
  | some value =>
      match read value with
      | some result => .ok (some result)
      | none => .error (.invalid key value)

end Environment

end WorkspacePool.Settings
