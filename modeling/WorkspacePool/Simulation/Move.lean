import WorkspacePool.ManualClock
import WorkspacePool.Pool.Operation

/-!
Moves on a pool with a clock beside it: one use of the pool, two of them in a row, or a change of
the clock. A competing caller is a list of moves.
-/

namespace WorkspacePool.Simulation

/-- A pool and the clock its operations read. -/
structure Desk where
  pool : Pool
  clock : ManualClock
deriving DecidableEq, Repr, Inhabited

inductive Move where
  | use (op : PoolOp)
  | findAndClaim (projectId sessionId : String)
  | advance (span : Span)
  | setClock (now : Millis)
  | look
deriving DecidableEq, Repr

namespace Move

@[reducible] def Reply : Move → Type
  | .use op => op.Reply
  | .findAndClaim _ _ => Except PoolError SlotId
  | .advance _ | .setClock _ | .look => Unit

end Move

namespace Desk

def use (desk : Desk) (op : PoolOp) : op.Reply × Desk :=
  let (reply, pool) := desk.pool.perform desk.clock.now op
  (reply, { desk with pool })

/-- Look for a free slot and claim the one that was found. -/
def findAndClaim (desk : Desk) (projectId sessionId : String) :
    Except PoolError SlotId × Desk :=
  match desk.use .findFree with
  | (.error reason, after) => (.error reason, after)
  | (.ok slot, after) =>
      match after.use (.claim slot projectId sessionId) with
      | (.error reason, claimed) => (.error reason, claimed)
      | (.ok (), claimed) => (.ok slot, claimed)

def make (desk : Desk) : (move : Move) → move.Reply × Desk
  | .use op => desk.use op
  | .findAndClaim projectId sessionId => desk.findAndClaim projectId sessionId
  | .advance span => ((), { desk with clock := desk.clock.advance span })
  | .setClock now => ((), { desk with clock := desk.clock.set now })
  | .look => ((), desk)

/-- Make moves one after the other, whatever they answer. -/
def makeAll (desk : Desk) (moves : List Move) : Desk :=
  moves.foldl (fun current move => (current.make move).2) desk

end Desk

end WorkspacePool.Simulation
