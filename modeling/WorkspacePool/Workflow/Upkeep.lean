import WorkspacePool.Workflow.Serving

/-!
Work that nobody asks for: workspaces that idle are paused, and the queue is served.
-/

namespace WorkspacePool.Workflow

structure UpkeepSettings where
  /-- How long a workspace may idle. -/
  idleTimeout : Span := Span.ofMinutes 30
  /-- How often idle workspaces are looked for. -/
  pauseInterval : Span := Span.ofSeconds 60
  /-- How often the queue is served. -/
  queueInterval : Span := Span.ofSeconds 10
deriving DecidableEq, Repr, Inhabited

def idleMessage (seconds : Nat) : String :=
  "idle for " ++ toString seconds ++ "s, pausing"

def idlePausedMessage : String := "workspace paused after inactivity"

/-- A report to the session a slot was seen to serve. -/
def reportOf (slot : Slot) (status : WorkspaceStatus) (message : String) : Report :=
  { sessionId := slot.sessionId, projectId := slot.projectId, status, message }

/-- Note activity of a project, if it holds a slot. -/
def noteActivity (projectId : String) : Steps Bool := do
  match ← Steps.usePool (.holder projectId) with
  | none => return false
  | some slot => return (← Steps.usePool (.touch slot.id)).isOk

/-- Pause the workspace of a slot that was seen to idle, provided that nothing has changed hands
since. -/
def pauseIdle (slot : Slot) : Steps (Option SlotId) := do
  let idle := (slot.idleFor (← Steps.now)).toNat / 1000
  match ← Steps.usePool (.pauseIfHeld slot.id slot.projectId) with
  | .error _ => return none
  | .ok () =>
      notify (reportOf slot .pausing (idleMessage idle))
      let _ ← Steps.call (.release slot.id slot.projectId)
      let freed ← Steps.usePool (.free slot.projectId)
      notify (reportOf slot .paused idlePausedMessage)
      return freed.toOption

/-- Pause the workspaces of slots one after the other and tell which slots were freed. -/
def pauseEach : List Slot → Steps (List SlotId)
  | [] => return []
  | slot :: rest => do
      let freed ← pauseIdle slot
      let others ← pauseEach rest
      return freed.toList ++ others

/-- Pause all workspaces that idle for longer than the timeout. -/
def pauseIdleSlots (idleTimeout : Span) : Steps (List SlotId) := do
  pauseEach (← Steps.usePool (.idleRunning idleTimeout))

/-- Serve at most one request of the queue. -/
def serveQueue (brokerUrl : String) : Steps Served :=
  serveNext brokerUrl

end WorkspacePool.Workflow
