import WorkspacePool.Workflow.Steps

/-!
Setting up the workspace of a slot that was claimed, for a request just made or for the head of the
queue. A workspace is reported to run only after the provisioner succeeded; when it fails, the slot
is freed again.
-/

namespace WorkspacePool.Workflow

/-- What became of an attempt to serve the queue. -/
inductive Served where
  | idle
  | provisioned (slot : SlotId) (projectId : String)
  | failed (slot : SlotId) (projectId : String)
deriving DecidableEq, Repr

/-- Publish a report. A report that cannot be published is lost, and nothing else depends on it. -/
def notify (report : Report) : Steps Unit := do
  let _ ← Steps.call (.publish report)

/-- A report to whoever made a request. -/
def reportOn (request : Request) (status : WorkspaceStatus) (message : String) : Report :=
  { sessionId := request.sessionId, projectId := request.projectId, status, message }

def provisioningMessage (slot : SlotId) : String :=
  "provisioning workspace on slot " ++ slot.text

def runningMessage (slot : SlotId) : String :=
  "workspace running on slot " ++ slot.text

def failedMessage (reason : WorkflowError) : String :=
  "failed to provision workspace: " ++ reason.message

/-- Set up the workspace of a slot that was claimed for a request. -/
def provision (brokerUrl : String) (slot : SlotId) (request : Request) :
    Steps (Except WorkflowError Unit) := do
  notify (reportOn request .provisioning (provisioningMessage slot))
  match ← Steps.call (.assign slot (Assignment.ofRequest request brokerUrl)) with
  | .error reason =>
      let _ ← Steps.usePool (.free request.projectId)
      return .error (.provision reason)
  | .ok () =>
      notify (reportOn request .running (runningMessage slot))
      return .ok ()

/-- Serve the head of the queue, if a slot is free. A request that fails is dropped. -/
def serveNext (brokerUrl : String) : Steps Served := do
  match ← Steps.usePool .claimNext with
  | none => return .idle
  | some (slot, request) =>
      match ← provision brokerUrl slot request with
      | .ok () => return .provisioned slot request.projectId
      | .error reason =>
          notify (reportOn request .failed (failedMessage reason))
          return .failed slot request.projectId

end WorkspacePool.Workflow
