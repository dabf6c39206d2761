import WorkspacePool.Calendar.Format
import WorkspacePool.Daemon.Startup
import WorkspacePool.Kubernetes.Http
import WorkspacePool.SystemClock

/-!
The daemon's command line. It takes its configuration from the environment, writes its log to
standard output, and tells on standard error why it ends.
-/

namespace WorkspacePool.Daemon

open Settings (Environment Key LogFormat)

/-- The variable that the log's filter is read from. -/
def filterVariable : String := "RUST_LOG"

def readVariable (name : String) : IO (Option (List UInt8)) := do
  return (← IO.getEnv name).map fun value => value.toUTF8.data.toList

def readEnvironment : IO Environment := do
  let mut settings : List (String × List UInt8) := []
  for key in Key.all do
    if let some value ← readVariable key.name then
      settings := (key.name, value) :: settings
  return .ofList settings

def writeRecord (format : LogFormat) (record : Log.Record) : IO Unit := do
  let time := (Calendar.Timestamp.ofClock (← readSystemClock)).text .letter
  IO.println (match format with
    | .text => time ++ "  " ++ record.line
    | .json => (record.document time).text)

/-- No cluster and no broker can be reached from here. -/
def carryOut (format : LogFormat) (filter : Log.Filter) :
    (action : Action) → IO action.Outcome
  | .log record => if filter.shows record then writeRecord format record else pure ()
  | .connectCluster _ => return (.error Kubernetes.notConfigured : Except ProvisionError Unit)
  | .prepareSlots _ => return (.ok () : Except ProvisionError Unit)
  | .connectBroker _ _ => return (.error .closed : Except BrokerError Unit)

def carryOutAll {α : Type} (format : LogFormat) (filter : Log.Filter) : Startup α → IO α
  | .done result => pure result
  | .ask action next => do carryOutAll format filter (next (← carryOut format filter action))

end WorkspacePool.Daemon

open WorkspacePool WorkspacePool.Daemon in
def main : IO UInt32 := do
  let environment ← readEnvironment
  let filter := Log.Filter.ofVariable (← readVariable filterVariable)
  let format := match Settings.Config.ofEnvironment environment with
    | .ok config => config.logFormat
    | .error _ => .text
  match ← carryOutAll format filter (Startup.start environment) with
  | .ok _ => return 0
  | .error error =>
      IO.eprintln error.report
      return 1
