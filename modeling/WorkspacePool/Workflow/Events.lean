import WorkspacePool.Workflow.Serving

/-!
Handling of events: a workspace is created, released or paused. Events may be delivered more than
once, and every path is made to bear that.
-/

namespace WorkspacePool.Workflow

/-- What handling an event came to. -/
inductive Consequence where
  | running (slot : SlotId)
  | alreadyRunning (slot : SlotId)
  | queued (position : Nat)
  | rejected
  | released (slot : Option SlotId) (served : Served)
  | paused (slot : Option SlotId) (served : Served)
  | ignored
deriving DecidableEq, Repr

/-- What an attempt to claim a slot came to: the slot is claimed now, or was held before. -/
inductive Placement where
  | claimed (slot : SlotId)
  | held (slot : SlotId)
deriving DecidableEq, Repr

/-- How often a slot is looked for and lost to another caller before the pool counts as full. -/
def placementAttempts : Nat := 3

def queuedMessage (position : Nat) : String :=
  "queued at position " ++ toString position

def queueFullMessage : String := "server busy: queue full, try again later"

def releasedMessage : String := "workspace released"

def pausingMessage : String := "pausing workspace"

def pausedMessage : String := "workspace paused"

/-- A report to whoever sent a payload. -/
def reportTo (payload : Payload) (status : WorkspaceStatus) (message : String) : Report :=
  { sessionId := payload.sessionId, projectId := payload.projectId, status, message }

/-- Find a free slot and claim it, up to a number of times. -/
def place (projectId sessionId : String) : (attempts : Nat) → Steps (Except PoolError Placement)
  | 0 => return .error .noSlotsAvailable
  | attempts + 1 => do
      match ← Steps.usePool .findFree with
      | .error reason => return .error reason
      | .ok slot =>
          match ← Steps.usePool (.claim slot projectId sessionId) with
          | .ok () => return .ok (.claimed slot)
          | .error (.alreadyAssigned _ holder) => return .ok (.held holder)
          | .error (.notFound _) => place projectId sessionId attempts
          | .error reason => return .error reason

/-- The project holds a slot: note activity there and report once more that it runs. -/
def confirmRunning (slot : SlotId) (payload : Payload) : Steps Consequence := do
  let _ ← Steps.usePool (.touch slot)
  notify (reportTo payload .running (runningMessage slot))
  return .alreadyRunning slot

/-- Look up the token of a request that came without one. A request may do without. -/
def fillToken (request : Request) : Steps Request := do
  if request.githubToken == "" && request.userId != "" then
    match ← Steps.call (.lookUpToken request.userId) with
    | .ok githubToken => return { request with githubToken }
    | .error _ => return request
  else return request

/-- Let a request wait for a slot. -/
def enqueue (request : Request) : Steps (Except WorkflowError Consequence) := do
  match ← Steps.usePool (.enqueue request) with
  | .ok position =>
      notify (reportOn request .queued (queuedMessage position))
      return .ok (.queued position)
  | .error (.queueFull _) =>
      notify (reportOn request .failed queueFullMessage)
      return .ok .rejected
  | .error reason => return .error (.pool reason)

/-- Make a workspace run for the project, or let its request wait. -/
def create (brokerUrl : String) (payload : Payload) : Steps (Except WorkflowError Consequence) := do
  if payload.projectId == "" then return .ok .ignored
  else
    match ← Steps.usePool (.holder payload.projectId) with
    | some slot => .ok <$> confirmRunning slot.id payload
    | none =>
        let now ← Steps.now
        let request ← fillToken (Request.ofPayload payload now)
        match ← place payload.projectId payload.sessionId placementAttempts with
        | .ok (.held slot) => .ok <$> confirmRunning slot payload
        | .error .noSlotsAvailable => enqueue request
        | .error reason => return .error (.pool reason)
        | .ok (.claimed slot) =>
            let _ ← Steps.usePool (.withdraw payload.projectId)
            match ← provision brokerUrl slot request with
            | .ok () => return .ok (.running slot)
            | .error reason => return .error reason

/-- Tear down a project's workspace and free its slot, also when tearing it down fails. -/
def tearDown (projectId : String) : Steps (Option SlotId) := do
  match ← Steps.usePool (.holder projectId) with
  | none => return none
  | some slot =>
      let _ ← Steps.call (.release slot.id projectId)
      match ← Steps.usePool (.free projectId) with
      | .ok freed => return some freed
      | .error _ => return none

/-- Serve the queue after a slot was freed. -/
def serveAfter (brokerUrl : String) : Option SlotId → Steps Served
  | some _ => serveNext brokerUrl
  | none => return .idle

/-- Give up a project's workspace, or its place in the queue. -/
def release (brokerUrl : String) (payload : Payload) : Steps Consequence := do
  let slot ← tearDown payload.projectId
  if slot.isNone then
    let _ ← Steps.usePool (.withdraw payload.projectId)
  let served ← serveAfter brokerUrl slot
  notify (reportTo payload .released releasedMessage)
  return .released slot served

/-- Pause a project's workspace, which frees its slot. -/
def pause (brokerUrl : String) (payload : Payload) : Steps Consequence := do
  match ← Steps.usePool (.holder payload.projectId) with
  | none =>
      notify (reportTo payload .paused pausedMessage)
      return .paused none .idle
  | some slot =>
      notify (reportTo payload .pausing pausingMessage)
      let _ ← Steps.usePool (.mark slot.id .paused)
      let freed ← tearDown payload.projectId
      let served ← serveAfter brokerUrl freed
      notify (reportTo payload .paused pausedMessage)
      return .paused freed served

/-- Handle one event. -/
def handle (brokerUrl : String) (event : Event) : Steps (Except WorkflowError Consequence) :=
  match event.kind with
  | .createRequested => create brokerUrl event.payload
  | .releaseRequested => .ok <$> release brokerUrl event.payload
  | .pauseRequested => .ok <$> pause brokerUrl event.payload
  | .unknown => return .ok .ignored

end WorkspacePool.Workflow
