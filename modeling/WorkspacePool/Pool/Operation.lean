import WorkspacePool.Pool.Basic

/-!
The pool's operations as data, so that a history of a pool is a list of them and a program's use of
a pool can be read off its steps.
-/

namespace WorkspacePool

/-- One indivisible use of a pool. -/
inductive PoolOp where
  | findFree
  | claim (slot : SlotId) (projectId sessionId : String)
  | free (projectId : String)
  | enqueue (request : Request)
  | dequeue
  | claimNext
  | withdraw (projectId : String)
  | position (projectId : String)
  | mark (slot : SlotId) (status : SlotStatus)
  | pauseIfHeld (slot : SlotId) (projectId : String)
  | touch (slot : SlotId)
  | holder (projectId : String)
  | idleRunning (limit : Span)
deriving DecidableEq, Repr

namespace PoolOp

/-- What an operation answers with. -/
@[reducible] def Reply : PoolOp → Type
  | .findFree => Except PoolError SlotId
  | .claim _ _ _ => Except PoolError Unit
  | .free _ => Except PoolError SlotId
  | .enqueue _ => Except PoolError Nat
  | .dequeue => Option Request
  | .claimNext => Option (SlotId × Request)
  | .withdraw _ => Option Request
  | .position _ => Option Nat
  | .mark _ _ => Except PoolError Unit
  | .pauseIfHeld _ _ => Except PoolError Unit
  | .touch _ => Except PoolError Unit
  | .holder _ => Option Slot
  | .idleRunning _ => List Slot

end PoolOp

namespace Pool

/-- Carry out one operation at a reading of the clock. -/
def perform (pool : Pool) (now : Millis) : (op : PoolOp) → op.Reply × Pool
  | .findFree => (pool.findFree, pool)
  | .claim slot projectId sessionId => pool.claim slot projectId sessionId now
  | .free projectId => pool.free projectId now
  | .enqueue request => pool.enqueue request
  | .dequeue => pool.dequeue
  | .claimNext => pool.claimNext now
  | .withdraw projectId => pool.withdraw projectId
  | .position projectId => (pool.position? projectId, pool)
  | .mark slot status => pool.mark slot status
  | .pauseIfHeld slot projectId => pool.pauseIfHeld slot projectId
  | .touch slot => pool.touch slot now
  | .holder projectId => (pool.holder? projectId, pool)
  | .idleRunning limit => (pool.idleRunning limit now, pool)

end Pool

end WorkspacePool
