import WorkspacePool.Codec
import WorkspacePool.Proofs.Calendar.Timestamps
import WorkspacePool.Proofs.Json.Writing

/-!
The JSON form of events and records, written and read back. Every slot, request, assignment and
payload is read as it was written. So is every event that was ever read, whatever its time was
given as: its time is written in universal time, which the written form ends by saying.
-/

namespace WorkspacePool

open Json
open Json.Value (Member written_object written_string written_natural written_bool)

namespace Wire

variable {α : Type} [Wire α]

/-- The JSON text of a value is read as the value. -/
def RoundTrips (value : α) : Prop :=
  ofBytes α (encode value).toUTF8.data.toList = some value

theorem RoundTrips.of_encodes {value : α} (encodes : Encodes decode (write value) value) :
    RoundTrips value := by
  obtain ⟨json, written, read⟩ := encodes
  rw [RoundTrips, encode, Text.bytes_eq_utf8, String.toList_ofList, ofBytes, written.ofBytes]
  exact read

end Wire

/-! ### Names and numbers -/

theorem SlotId.encodes (id : SlotId) : Encodes Wire.decode (Wire.write id) id :=
  ⟨_, written_natural id.number.toNat, by simp [Wire.decode]⟩

theorem SlotStatus.encodes (status : SlotStatus) :
    Encodes Wire.decode (Wire.write status) status := by
  refine ⟨_, written_string status.name, ?_⟩
  simp only [Wire.decode, Wire.named, Decoder.choice_ofText, Option.bind_eq_bind, Option.bind_some]
  cases status <;> decide

theorem EventKind.encodes (kind : EventKind) : Encodes Wire.decode (Wire.write kind) kind := by
  refine ⟨_, written_string kind.name, ?_⟩
  simp only [Wire.decode, Decoder.choice_ofText, Option.map_eq_map, Option.map_some]
  cases kind <;> decide

theorem WorkspaceStatus.encodes (status : WorkspaceStatus) :
    Encodes Wire.decode (Wire.write status) status := by
  refine ⟨_, written_string status.name, ?_⟩
  simp only [Wire.decode, Wire.named, Decoder.choice_ofText, Option.bind_eq_bind, Option.bind_some]
  cases status <;> decide

theorem Calendar.Timestamp.encodes {timestamp : Timestamp} (sound : timestamp.Sound) :
    Encodes Wire.decode (Wire.write timestamp) timestamp := by
  refine ⟨_, written_string (timestamp.text .letter), ?_⟩
  simp [Wire.decode, text, read_write sound]

/-! ### Records -/

theorem Slot.encodes (slot : Slot) : Encodes Wire.decode (Wire.write slot) slot := by
  obtain ⟨id, idWritten, idRead⟩ := slot.id.encodes
  obtain ⟨status, statusWritten, statusRead⟩ := slot.status.encodes
  refine Encodes.record Slot.fieldNames
    [⟨"id", _, id, idWritten⟩, ⟨"project_id", _, _, written_string slot.projectId⟩,
      ⟨"session_id", _, _, written_string slot.sessionId⟩,
      ⟨"is_busy", _, _, written_bool slot.isBusy⟩, ⟨"status", _, status, statusWritten⟩,
      ⟨"last_activity_ms", _, _, written_natural slot.lastActivity.toNat⟩]
    rfl (by decide) fun json collected => ?_
  change Slot.decode json = _
  simp [Slot.decode, collected, Fields.required, idRead, statusRead]

theorem Payload.encodes (payload : Payload) : Encodes Wire.decode (Wire.write payload) payload := by
  refine Encodes.record Payload.fieldNames
    [⟨"project_id", _, _, written_string payload.projectId⟩,
      ⟨"user_id", _, _, written_string payload.userId⟩,
      ⟨"git_repo_url", _, _, written_string payload.gitRepoUrl⟩,
      ⟨"session_id", _, _, written_string payload.sessionId⟩,
      ⟨"github_token", _, _, written_string payload.githubToken⟩,
      ⟨"target_branch", _, _, written_string payload.targetBranch⟩]
    rfl (by decide) fun json collected => ?_
  change Payload.decode json = _
  simp [Payload.decode, collected, Fields.optional]

theorem Request.encodes (request : Request) : Encodes Wire.decode (Wire.write request) request := by
  refine Encodes.record Request.fieldNames
    [⟨"project_id", _, _, written_string request.projectId⟩,
      ⟨"user_id", _, _, written_string request.userId⟩,
      ⟨"git_repo_url", _, _, written_string request.gitRepoUrl⟩,
      ⟨"session_id", _, _, written_string request.sessionId⟩,
      ⟨"github_token", _, _, written_string request.githubToken⟩,
      ⟨"target_branch", _, _, written_string request.targetBranch⟩,
      ⟨"queued_at_ms", _, _, written_natural request.queuedAt.toNat⟩]
    rfl (by decide) fun json collected => ?_
  change Request.decode json = _
  simp [Request.decode, collected, Fields.required]

theorem Assignment.encodes (assignment : Assignment) :
    Encodes Wire.decode (Wire.write assignment) assignment := by
  refine Encodes.record Assignment.fieldNames
    [⟨"project_id", _, _, written_string assignment.projectId⟩,
      ⟨"session_id", _, _, written_string assignment.sessionId⟩,
      ⟨"git_repo_url", _, _, written_string assignment.gitRepoUrl⟩,
      ⟨"github_token", _, _, written_string assignment.githubToken⟩,
      ⟨"broker_url", _, _, written_string assignment.brokerUrl⟩,
      ⟨"target_branch", _, _, written_string assignment.targetBranch⟩]
    rfl (by decide) fun json collected => ?_
  change Assignment.decode json = _
  simp [Assignment.decode, collected, Fields.required]

theorem Report.encodes (report : Report) : Encodes Wire.decode (Wire.write report) report := by
  obtain ⟨status, statusWritten, statusRead⟩ := report.status.encodes
  refine Encodes.record Report.fieldNames
    [⟨"project_id", _, _, written_string report.projectId⟩,
      ⟨"session_id", _, _, written_string report.sessionId⟩, ⟨"status", _, status, statusWritten⟩,
      ⟨"message", _, _, written_string report.message⟩]
    rfl (by decide) fun json collected => ?_
  change Report.decode json = _
  simp [Report.decode, collected, Fields.required, statusRead]

/-! ### Events -/

theorem Event.encodes {event : Event} (sound : event.timestamp.Sound) :
    Encodes Wire.decode (Wire.write event) event := by
  obtain ⟨kind, kindWritten, kindRead⟩ := event.kind.encodes
  obtain ⟨timestamp, timestampWritten, timestampRead⟩ := Calendar.Timestamp.encodes sound
  obtain ⟨payload, payloadWritten, payloadRead⟩ := event.payload.encodes
  refine Encodes.record Event.fieldNames
    [⟨"event_type", _, kind, kindWritten⟩, ⟨"timestamp", _, timestamp, timestampWritten⟩,
      ⟨"payload", _, payload, payloadWritten⟩]
    rfl (by decide) fun json collected => ?_
  change Event.decode json = _
  simp [Event.decode, collected, Fields.required, Fields.optional, kindRead, timestampRead,
    payloadRead]

theorem StatusEvent.encodes {event : StatusEvent} (sound : event.timestamp.Sound) :
    Encodes Wire.decode (Wire.write event) event := by
  obtain ⟨timestamp, timestampWritten, timestampRead⟩ := Calendar.Timestamp.encodes sound
  obtain ⟨report, reportWritten, reportRead⟩ := event.report.encodes
  refine Encodes.record StatusEvent.fieldNames
    [⟨"event_type", _, _, written_string StatusEvent.kindName⟩,
      ⟨"timestamp", _, timestamp, timestampWritten⟩, ⟨"payload", _, report, reportWritten⟩]
    rfl (by decide) fun json collected => ?_
  change StatusEvent.decode json = _
  simp [StatusEvent.decode, collected, Fields.required, timestampRead, reportRead]

/-- A time that is read from a body is an instant of the calendar. -/
theorem Calendar.Timestamp.sound_of_decode {json : Json.Value} {timestamp : Timestamp}
    (found : Wire.decode json = some timestamp) : timestamp.Sound := by
  simp only [Wire.decode, Option.bind_eq_bind, Option.bind_eq_some_iff] at found
  obtain ⟨text, -, read⟩ := found
  exact read_sound read

theorem Event.sound_of_decode {json : Json.Value} {event : Event}
    (found : Event.decode json = some event) : event.timestamp.Sound := by
  simp only [Event.decode, Option.bind_eq_bind, Option.bind_eq_some_iff] at found
  obtain ⟨fields, -, found⟩ := found
  split at found
  · next kind timestamp payload =>
      simp only [Option.bind_eq_some_iff, Option.some.injEq] at found
      obtain ⟨_, -, time, read, _, -, rfl⟩ := found
      cases timestamp with
      | none =>
          cases read
          exact Calendar.Timestamp.epoch_sound
      | some given => exact Calendar.Timestamp.sound_of_decode read
  · cases found

theorem StatusEvent.sound_of_decode {json : Json.Value} {event : StatusEvent}
    (found : StatusEvent.decode json = some event) : event.timestamp.Sound := by
  simp only [StatusEvent.decode, Option.bind_eq_bind, Option.bind_eq_some_iff] at found
  obtain ⟨fields, -, found⟩ := found
  split at found
  · next kind timestamp payload =>
      simp only [Option.bind_eq_some_iff] at found
      obtain ⟨name, -, found⟩ := found
      split at found
      · simp only [Option.bind_eq_some_iff, Option.some.injEq] at found
        obtain ⟨time, read, _, -, rfl⟩ := found
        cases timestamp with
        | none => cases read
        | some given => exact Calendar.Timestamp.sound_of_decode read
      · cases found
  · cases found

/-! ### Everything that is written -/

/-- A time in its written form, with the letter that says it is universal time. -/
def IsUniversal (written : List Char) : Prop :=
  ∃ shown, written = '"' :: (shown ++ ['Z', '"'])

theorem Calendar.Timestamp.isUniversal (timestamp : Timestamp) :
    IsUniversal (Wire.write timestamp) := by
  refine ⟨(timestamp.date.text ++ 'T' :: timeText timestamp.second timestamp.nanos).flatMap
    Writer.character, ?_⟩
  change Writer.string (timestamp.text .letter) = _
  rw [Writer.string, text, String.toList_ofList, write_letter, List.flatMap_append]
  simp [Writer.character]

theorem Wire.RoundTrips.of_ofBytes {α : Type} [Wire α] {body : List UInt8} {value : α}
    (found : Wire.ofBytes α body = some value)
    (encodes : ∀ json, Wire.decode json = some value →
      Encodes Wire.decode (Wire.write value) value) : Wire.RoundTrips value := by
  obtain ⟨json, -, decoded⟩ := Option.bind_eq_some_iff.mp found
  exact .of_encodes (encodes json decoded)

namespace Wire

/-- What is written is read as it was written: all values of the types that tell no time, and all
events that any body is read as. The time of an event is written as universal time, at whatever
offset it was given. -/
theorem written_reads_back :
    (∀ body (event : Event), ofBytes Event body = some event →
      RoundTrips event ∧ IsUniversal (write event.timestamp)) ∧
    (∀ body (event : StatusEvent), ofBytes StatusEvent body = some event →
      RoundTrips event ∧ IsUniversal (write event.timestamp)) ∧
    (∀ payload : Payload, RoundTrips payload) ∧
    (∀ request : Request, RoundTrips request) ∧
    (∀ assignment : Assignment, RoundTrips assignment) ∧
    (∀ slot : Slot, RoundTrips slot) ∧
    (∀ id : SlotId, RoundTrips id) ∧
    (∀ status : SlotStatus, RoundTrips status) ∧
    (∀ kind : EventKind, RoundTrips kind) ∧
    (∀ status : WorkspaceStatus, RoundTrips status) := by
  refine ⟨?event, ?statusEvent, fun payload => .of_encodes payload.encodes,
    fun request => .of_encodes request.encodes,
    fun assignment => .of_encodes assignment.encodes, fun slot => .of_encodes slot.encodes,
    fun id => .of_encodes id.encodes, fun status => .of_encodes status.encodes,
    fun kind => .of_encodes kind.encodes, fun status => .of_encodes status.encodes⟩
  case event =>
    intro body event found
    exact ⟨.of_ofBytes found fun json decoded => Event.encodes (Event.sound_of_decode decoded),
      event.timestamp.isUniversal⟩
  case statusEvent =>
    intro body event found
    exact ⟨.of_ofBytes found fun json decoded =>
      StatusEvent.encodes (StatusEvent.sound_of_decode decoded), event.timestamp.isUniversal⟩

/-- An event at the last leap second, in local time of New York, with an escape that is not
needed and a payload that is given as an array. -/
def leapBody : List UInt8 :=
  Text.utf8 ("\x7b\"event_type\":\"CREATE_REQUESTED\"," ++
    "\"timestamp\":\"2016-12-31 18:59:60.25-05:00\",\"payload\":[\"p\\u00e9\\n\"]\x7d").toList

def leapEvent : Event where
  kind := .createRequested
  timestamp := ⟨⟨2016, 12, 31⟩, 86399, 1250000000⟩
  payload := { Payload.blank with projectId := "pé\n" }

theorem leap_second_reads_back :
    ofBytes Event leapBody = some leapEvent ∧
      RoundTrips leapEvent ∧ IsUniversal (write leapEvent.timestamp) := by
  have found : ofBytes Event leapBody = some leapEvent := by decide +kernel
  exact ⟨found, written_reads_back.1 leapBody leapEvent found⟩

end Wire

end WorkspacePool
