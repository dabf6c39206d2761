/-!
Slots of the pool. A slot is free or serves one project; the row kept for it records who holds it,
whether the workspace runs, and when it was last active.
-/

namespace WorkspacePool

/-- A reading of the clock: milliseconds since the Unix epoch, in one 64-bit word. -/
abbrev Millis := UInt64

/-- The number of a slot, which fits one 32-bit word. Slots are numbered from one. -/
structure SlotId where
  number : UInt32
deriving DecidableEq, Repr, Inhabited

namespace SlotId

/-- The number in decimal. -/
def text (slot : SlotId) : String :=
  toString slot.number.toNat

end SlotId

inductive SlotStatus where
  | empty
  | running
  | paused
deriving DecidableEq, Repr, Inhabited

namespace SlotStatus

def name : SlotStatus → String
  | .empty => "EMPTY"
  | .running => "RUNNING"
  | .paused => "PAUSED"

def all : List SlotStatus := [.empty, .running, .paused]

end SlotStatus

structure Slot where
  id : SlotId
  projectId : String
  sessionId : String
  isBusy : Bool
  status : SlotStatus
  lastActivity : Millis
deriving DecidableEq, Repr, Inhabited

namespace Slot

/-- A free slot. -/
def free (id : SlotId) (now : Millis) : Slot :=
  { id, projectId := "", sessionId := "", isBusy := false, status := .empty, lastActivity := now }

/-- Hand the slot to a project. -/
def occupy (slot : Slot) (projectId sessionId : String) (now : Millis) : Slot :=
  { slot with projectId, sessionId, isBusy := true, status := .running, lastActivity := now }

/-- Take the slot back from whoever holds it. -/
def clear (slot : Slot) (now : Millis) : Slot :=
  free slot.id now

/-- A slot holds a project when it is busy with it. The empty project is held by no slot. -/
def holds (slot : Slot) (projectId : String) : Bool :=
  slot.isBusy && projectId != "" && slot.projectId == projectId

/-- Milliseconds since the last activity, zero when the clock is behind it. -/
def idleFor (slot : Slot) (now : Millis) : Millis :=
  if slot.lastActivity ≤ now then now - slot.lastActivity else 0

theorem holds_iff {slot : Slot} {projectId : String} :
    slot.holds projectId = true ↔
      slot.isBusy = true ∧ projectId ≠ "" ∧ slot.projectId = projectId := by
  simp [holds, and_assoc]

/-- Idle time is subtraction of naturals, which stops at zero. -/
theorem toNat_idleFor (slot : Slot) (now : Millis) :
    (slot.idleFor now).toNat = now.toNat - slot.lastActivity.toNat := by
  unfold idleFor
  split
  · next ordered => exact UInt64.toNat_sub_of_le _ _ ordered
  · next unordered =>
      have : now.toNat < slot.lastActivity.toNat := by
        simpa [UInt64.le_iff_toNat_le] using unordered
      simp only [UInt64.toNat_zero]
      omega

end Slot

end WorkspacePool
