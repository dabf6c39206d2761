import WorkspacePool.Pool.Error
import WorkspacePool.Request
import WorkspacePool.Span

/-!
The pool: a fixed list of slots and a bounded queue of requests that wait for one. Each operation
is one indivisible step; the ones that need the time are given the clock's reading.
-/

namespace WorkspacePool

structure Pool where
  slots : List Slot
  waiting : List Request
  capacity : Nat
deriving DecidableEq, Repr, Inhabited

namespace Pool

/-- A pool of `slotCount` free slots, numbered from one, with an empty queue. -/
def create (slotCount : UInt32) (capacity : Nat) (now : Millis) : Pool :=
  { slots := (List.range slotCount.toNat).map fun index =>
      Slot.free ⟨UInt32.ofNat (index + 1)⟩ now
    waiting := []
    capacity }

/-! ### Views -/

def slot? (pool : Pool) (id : SlotId) : Option Slot :=
  pool.slots.find? (·.id == id)

/-- The slot that holds a project. -/
def holder? (pool : Pool) (projectId : String) : Option Slot :=
  pool.slots.find? (·.holds projectId)

/-- The first slot that is not busy. -/
def firstFree? (pool : Pool) : Option SlotId :=
  (pool.slots.find? (!·.isBusy)).map (·.id)

/-- The place of a waiting project in the queue, counted from one. -/
def position? (pool : Pool) (projectId : String) : Option Nat :=
  (pool.waiting.findIdx? (·.projectId == projectId)).map (· + 1)

def busyCount (pool : Pool) : Nat :=
  pool.slots.countP (·.isBusy)

/-- Running slots that were idle for longer than the limit, the longest idle first and equally
idle ones in slot order. The limit counts by the low 64 bits of its milliseconds. -/
def idleRunning (pool : Pool) (limit : Span) (now : Millis) : List Slot :=
  (pool.slots.filter fun slot =>
      slot.isBusy && slot.status == .running && limit.word < slot.idleFor now).mergeSort
    fun left right => left.lastActivity ≤ right.lastActivity

/-! ### Changes -/

/-- Change the first element that passes the test. -/
def updateFirst {α : Type} (test : α → Bool) (change : α → α) : List α → List α
  | [] => []
  | first :: rest =>
      if test first then change first :: rest else first :: updateFirst test change rest

/-- Change the row of one slot. -/
def updateSlot (pool : Pool) (id : SlotId) (change : Slot → Slot) : Pool :=
  { pool with slots := updateFirst (·.id == id) change pool.slots }

def findFree (pool : Pool) : Except PoolError SlotId :=
  match pool.firstFree? with
  | some id => .ok id
  | none => .error .noSlotsAvailable

/-- The holder of a project in another slot than the given one. -/
def holderElsewhere? (pool : Pool) (projectId : String) (id : SlotId) : Option Slot :=
  (pool.holder? projectId).filter (·.id != id)

/-- Claim a slot for a project. A slot that is missing or was taken meanwhile is not found. -/
def claim (pool : Pool) (id : SlotId) (projectId sessionId : String) (now : Millis) :
    Except PoolError Unit × Pool :=
  if projectId == "" then (.error .emptyProject, pool)
  else
    match pool.holderElsewhere? projectId id with
    | some holder => (.error (.alreadyAssigned projectId holder.id), pool)
    | none =>
        match pool.slot? id with
        | none => (.error (.notFound (.slot id)), pool)
        | some slot =>
            if slot.isBusy then (.error (.notFound (.busy id)), pool)
            else (.ok (), pool.updateSlot id (·.occupy projectId sessionId now))

/-- Free the slot that holds a project. -/
def free (pool : Pool) (projectId : String) (now : Millis) : Except PoolError SlotId × Pool :=
  match pool.holder? projectId with
  | none => (.error (.notFound (.holder projectId)), pool)
  | some holder =>
      (.ok holder.id,
        { pool with slots := updateFirst (·.holds projectId) (·.clear now) pool.slots })

/-- Let a request wait and tell its place. A project that waits already keeps its place, and the
request it waits with. -/
def enqueue (pool : Pool) (request : Request) : Except PoolError Nat × Pool :=
  if request.projectId == "" then (.error .emptyProject, pool)
  else
    match pool.position? request.projectId with
    | some position => (.ok position, pool)
    | none =>
        if pool.capacity ≤ pool.waiting.length then (.error (.queueFull pool.capacity), pool)
        else (.ok (pool.waiting.length + 1), { pool with waiting := pool.waiting ++ [request] })

/-- Take the request that has waited longest. -/
def dequeue (pool : Pool) : Option Request × Pool :=
  match pool.waiting with
  | [] => (none, pool)
  | request :: rest => (some request, { pool with waiting := rest })

/-- Serve a queue: hand the first free slot to the request that has waited longest. Requests whose
project holds a slot already are dropped on the way. -/
def claimFor (pool : Pool) (now : Millis) : List Request → Option (SlotId × Request) × Pool
  | [] => (none, { pool with waiting := [] })
  | request :: rest =>
      match pool.firstFree? with
      | none => (none, { pool with waiting := request :: rest })
      | some id =>
          if (pool.holder? request.projectId).isSome then pool.claimFor now rest
          else
            match pool.slot? id with
            | none => (none, { pool with waiting := rest })
            | some _ =>
                (some (id, request),
                  { pool.updateSlot id (·.occupy request.projectId request.sessionId now) with
                    waiting := rest })

/-- Hand a free slot to the head of the queue, in one step. -/
def claimNext (pool : Pool) (now : Millis) : Option (SlotId × Request) × Pool :=
  pool.claimFor now pool.waiting

/-- Take a project's request out of the queue, wherever it stands. -/
def withdraw (pool : Pool) (projectId : String) : Option Request × Pool :=
  match pool.waiting.find? (·.projectId == projectId) with
  | none => (none, pool)
  | some request =>
      (some request, { pool with waiting := pool.waiting.eraseP (·.projectId == projectId) })

/-- A free slot is empty, a busy one runs or is paused. -/
def allows (slot : Slot) : SlotStatus → Bool
  | .empty => !slot.isBusy
  | .running | .paused => slot.isBusy

/-- Set the status of a slot. -/
def mark (pool : Pool) (id : SlotId) (status : SlotStatus) : Except PoolError Unit × Pool :=
  match pool.slot? id with
  | none => (.error (.notFound (.slot id)), pool)
  | some slot =>
      if allows slot status then (.ok (), pool.updateSlot id ({ · with status }))
      else (.error (.invalidStatus id status), pool)

/-- Pause a running slot, provided that it still holds the project. -/
def pauseIfHeld (pool : Pool) (id : SlotId) (projectId : String) : Except PoolError Unit × Pool :=
  match pool.slot? id with
  | none => (.error (.notFound (.slot id)), pool)
  | some slot =>
      if !slot.holds projectId then (.error (.notFound (.stillHeld id projectId)), pool)
      else if slot.status != .running then (.error (.invalidStatus id .paused), pool)
      else (.ok (), pool.updateSlot id ({ · with status := .paused }))

/-- Note activity in a slot. -/
def touch (pool : Pool) (id : SlotId) (now : Millis) : Except PoolError Unit × Pool :=
  match pool.slot? id with
  | none => (.error (.notFound (.slot id)), pool)
  | some _ => (.ok (), pool.updateSlot id ({ · with lastActivity := now }))

end Pool

end WorkspacePool
