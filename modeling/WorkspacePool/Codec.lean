import WorkspacePool.Assignment
import WorkspacePool.Calendar.Format
import WorkspacePool.Event
import WorkspacePool.Json.Fields
import WorkspacePool.Json.Writer
import WorkspacePool.Report

/-!
The JSON form of events and of the records kept about slots and requests. Every type has its
decoder and its writer side by side.
-/

namespace WorkspacePool

open Json

/-- A type with a JSON form. -/
class Wire (α : Type) where
  decode : Decoder α
  write : α → List Char

namespace Wire

/-- The JSON text of a value. -/
def encode {α : Type} [Wire α] (value : α) : String :=
  String.ofList (write value)

/-- Read a value from a body. -/
def ofBytes (α : Type) [Wire α] (body : List UInt8) : Option α :=
  (Value.ofBytes body).bind decode

/-- The one of the given values that has the name. -/
def named {α : Type} (name : α → String) (values : List α) : Decoder α := fun value => do
  let found ← Decoder.choice value
  values.find? (name · == found)

end Wire

instance : Wire SlotId where
  decode := fun value => SlotId.mk <$> Decoder.uint32 value
  write := fun slot => Writer.natural slot.number.toNat

instance : Wire SlotStatus where
  decode := Wire.named SlotStatus.name SlotStatus.all
  write := fun status => Writer.string status.name

instance : Wire EventKind where
  decode := fun value => EventKind.ofName <$> Decoder.choice value
  write := fun kind => Writer.string kind.name

instance : Wire WorkspaceStatus where
  decode := Wire.named WorkspaceStatus.name WorkspaceStatus.all
  write := fun status => Writer.string status.name

instance : Wire Calendar.Timestamp where
  decode := fun value => do Calendar.Timestamp.read (← Decoder.string value).toList
  write := fun timestamp => Writer.string (timestamp.text .letter)

namespace Slot

def fieldNames : List String :=
  ["id", "project_id", "session_id", "is_busy", "status", "last_activity_ms"]

def decode : Decoder Slot := fun value => do
  match ← Fields.collect fieldNames value with
  | [id, projectId, sessionId, isBusy, status, lastActivity] =>
      some
        { id := ← Fields.required Wire.decode id
          projectId := ← Fields.required Decoder.string projectId
          sessionId := ← Fields.required Decoder.string sessionId
          isBusy := ← Fields.required Decoder.bool isBusy
          status := ← Fields.required Wire.decode status
          lastActivity := ← Fields.required Decoder.uint64 lastActivity }
  | _ => none

def write (slot : Slot) : List Char :=
  Writer.object
    [("id", Wire.write slot.id), ("project_id", Writer.string slot.projectId),
      ("session_id", Writer.string slot.sessionId), ("is_busy", Writer.bool slot.isBusy),
      ("status", Wire.write slot.status),
      ("last_activity_ms", Writer.natural slot.lastActivity.toNat)]

end Slot

instance : Wire Slot := ⟨Slot.decode, Slot.write⟩

namespace Payload

def fieldNames : List String :=
  ["project_id", "user_id", "git_repo_url", "session_id", "github_token", "target_branch"]

/-- Every field may be left out. -/
def decode : Decoder Payload := fun value => do
  match ← Fields.collect fieldNames value with
  | [projectId, userId, gitRepoUrl, sessionId, githubToken, targetBranch] =>
      some
        { projectId := ← Fields.optional "" Decoder.string projectId
          userId := ← Fields.optional "" Decoder.string userId
          gitRepoUrl := ← Fields.optional "" Decoder.string gitRepoUrl
          sessionId := ← Fields.optional "" Decoder.string sessionId
          githubToken := ← Fields.optional "" Decoder.string githubToken
          targetBranch := ← Fields.optional "" Decoder.string targetBranch }
  | _ => none

def write (payload : Payload) : List Char :=
  Writer.object
    [("project_id", Writer.string payload.projectId), ("user_id", Writer.string payload.userId),
      ("git_repo_url", Writer.string payload.gitRepoUrl),
      ("session_id", Writer.string payload.sessionId),
      ("github_token", Writer.string payload.githubToken),
      ("target_branch", Writer.string payload.targetBranch)]

end Payload

instance : Wire Payload := ⟨Payload.decode, Payload.write⟩

namespace Event

def fieldNames : List String := ["event_type", "timestamp", "payload"]

/-- An event tells its kind; an event without a time is of the epoch. -/
def decode : Decoder Event := fun value => do
  match ← Fields.collect fieldNames value with
  | [kind, timestamp, payload] =>
      some
        { kind := ← Fields.required Wire.decode kind
          timestamp := ← Fields.optional .epoch Wire.decode timestamp
          payload := ← Fields.optional .blank Wire.decode payload }
  | _ => none

def write (event : Event) : List Char :=
  Writer.object
    [("event_type", Wire.write event.kind), ("timestamp", Wire.write event.timestamp),
      ("payload", Wire.write event.payload)]

end Event

instance : Wire Event := ⟨Event.decode, Event.write⟩

namespace Request

def fieldNames : List String := Payload.fieldNames ++ ["queued_at_ms"]

def decode : Decoder Request := fun value => do
  match ← Fields.collect fieldNames value with
  | [projectId, userId, gitRepoUrl, sessionId, githubToken, targetBranch, queuedAt] =>
      some
        { projectId := ← Fields.required Decoder.string projectId
          userId := ← Fields.required Decoder.string userId
          gitRepoUrl := ← Fields.required Decoder.string gitRepoUrl
          sessionId := ← Fields.required Decoder.string sessionId
          githubToken := ← Fields.required Decoder.string githubToken
          targetBranch := ← Fields.required Decoder.string targetBranch
          queuedAt := ← Fields.required Decoder.uint64 queuedAt }
  | _ => none

def write (request : Request) : List Char :=
  Writer.object
    [("project_id", Writer.string request.projectId), ("user_id", Writer.string request.userId),
      ("git_repo_url", Writer.string request.gitRepoUrl),
      ("session_id", Writer.string request.sessionId),
      ("github_token", Writer.string request.githubToken),
      ("target_branch", Writer.string request.targetBranch),
      ("queued_at_ms", Writer.natural request.queuedAt.toNat)]

end Request

instance : Wire Request := ⟨Request.decode, Request.write⟩

namespace Assignment

def fieldNames : List String :=
  ["project_id", "session_id", "git_repo_url", "github_token", "broker_url", "target_branch"]

def decode : Decoder Assignment := fun value => do
  match ← Fields.collect fieldNames value with
  | [projectId, sessionId, gitRepoUrl, githubToken, brokerUrl, targetBranch] =>
      some
        { projectId := ← Fields.required Decoder.string projectId
          sessionId := ← Fields.required Decoder.string sessionId
          gitRepoUrl := ← Fields.required Decoder.string gitRepoUrl
          githubToken := ← Fields.required Decoder.string githubToken
          brokerUrl := ← Fields.required Decoder.string brokerUrl
          targetBranch := ← Fields.required Decoder.string targetBranch }
  | _ => none

def write (assignment : Assignment) : List Char :=
  Writer.object
    [("project_id", Writer.string assignment.projectId),
      ("session_id", Writer.string assignment.sessionId),
      ("git_repo_url", Writer.string assignment.gitRepoUrl),
      ("github_token", Writer.string assignment.githubToken),
      ("broker_url", Writer.string assignment.brokerUrl),
      ("target_branch", Writer.string assignment.targetBranch)]

end Assignment

instance : Wire Assignment := ⟨Assignment.decode, Assignment.write⟩

namespace Report

def fieldNames : List String := ["project_id", "session_id", "status", "message"]

def decode : Decoder Report := fun value => do
  match ← Fields.collect fieldNames value with
  | [projectId, sessionId, status, message] =>
      some
        { projectId := ← Fields.required Decoder.string projectId
          sessionId := ← Fields.required Decoder.string sessionId
          status := ← Fields.required Wire.decode status
          message := ← Fields.required Decoder.string message }
  | _ => none

def write (report : Report) : List Char :=
  Writer.object
    [("project_id", Writer.string report.projectId),
      ("session_id", Writer.string report.sessionId), ("status", Wire.write report.status),
      ("message", Writer.string report.message)]

end Report

instance : Wire Report := ⟨Report.decode, Report.write⟩

namespace StatusEvent

def fieldNames : List String := ["event_type", "timestamp", "payload"]

def decode : Decoder StatusEvent := fun value => do
  match ← Fields.collect fieldNames value with
  | [kind, timestamp, payload] =>
      let name ← Fields.required Decoder.choice kind
      if name == kindName then
        some
          { timestamp := ← Fields.required Wire.decode timestamp
            report := ← Fields.required Wire.decode payload }
      else none
  | _ => none

def write (event : StatusEvent) : List Char :=
  Writer.object
    [("event_type", Writer.string kindName), ("timestamp", Wire.write event.timestamp),
      ("payload", Wire.write event.report)]

end StatusEvent

instance : Wire StatusEvent := ⟨StatusEvent.decode, StatusEvent.write⟩

end WorkspacePool
