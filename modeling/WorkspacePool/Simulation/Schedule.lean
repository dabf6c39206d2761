import WorkspacePool.Simulation.Collaborators
import WorkspacePool.Workflow.Ticker
import WorkspacePool.Workflow.Upkeep

/-!
One operation in the foreground and any number of loops behind it, on a time of its own. Each runs
until it ends or a collaborator keeps it waiting; only then do the others run. What comes due
at one moment is worked off in order: the foreground first, then the loops as they were started.
-/

namespace WorkspacePool.Simulation

open Workflow

/-- A pass that waits for a collaborator. -/
structure Waiting where
  wake : Nat
  moves : List Move
  later : List Interlude
  rest : Steps Unit

inductive LoopPhase where
  /-- Between two passes. -/
  | resting (ticker : Ticker)
  /-- In a pass that waits. -/
  | passing (ticker : Ticker) (waiting : Waiting)
  | ended
  /-- The loop could not be started. -/
  | crashed

/-- A loop makes a pass at every tick. -/
structure Loop where
  pass : Steps Unit
  phase : LoopPhase

namespace Loop

def start (now : Nat) (period : Span) (pass : Steps Unit) : Loop :=
  { pass, phase := (Ticker.start? now period).elim .crashed .resting }

/-- When the loop has something to do next. -/
def due? (loop : Loop) : Option Nat :=
  match loop.phase with
  | .resting ticker => some ticker.deadline
  | .passing _ waiting => some waiting.wake
  | .ended | .crashed => none

def hasEnded (loop : Loop) : Bool :=
  match loop.phase with
  | .ended => true
  | _ => false

end Loop

structure World where
  desk : Desk
  fakes : Collaborators
  time : Nat := 0
  loops : List Loop := []
  cancelled : Bool := false
  /-- What is tossed at a step of a loop, by how many steps loops have made. It decides where both
  choices are open. The coin falls on either side in turn, unless another one is taken. -/
  coin : Nat → LoopChoice := fun turn => if turn % 2 = 0 then .stop else .pass
  /-- How many steps loops have made. -/
  turn : Nat := 0
  /-- Moves of competing callers, one list for every claim that is attempted next. -/
  race : List (List Move) := []

namespace World

/-- Use the pool. A competing caller may come first where a slot is claimed. -/
def use (world : World) (op : PoolOp) : op.Reply × World :=
  let world := match op, world.race with
    | .claim _ _ _, moves :: race => { world with desk := world.desk.makeAll moves, race }
    | _, _ => world
  let (reply, desk) := world.desk.use op
  (reply, { world with desk })

def respond (world : World) (call : Call) : call.Answer × List Interlude × World :=
  let (answer, interludes, fakes) := world.fakes.respond call
  (answer, interludes, { world with fakes })

def makeAll (world : World) (moves : List Move) : World :=
  { world with desk := world.desk.makeAll moves }

/-- Let interludes pass up to the first that takes time. -/
def wait (world : World) (rest : Steps Unit) : List Interlude → World × Option Waiting
  | [] => (world, none)
  | interlude :: later =>
      if interlude.delay = 0 then (world.makeAll interlude.moves).wait rest later
      else (world, some ⟨world.time + interlude.delay, interlude.moves, later, rest⟩)

/-- Make a pass in the background until it ends or has to wait. -/
def runPass (world : World) : Steps Unit → World × Option Waiting
  | .done () => (world, none)
  | .ask .readClock next => world.runPass (next world.desk.clock.now)
  | .ask (.usePool op) next =>
      let (reply, after) := world.use op
      after.runPass (next reply)
  | .ask (.call call) next =>
      let (answer, interludes, after) := world.respond call
      match after.wait (next answer) interludes with
      | (after, some waiting) => (after, some waiting)
      | (after, none) => after.runPass (next answer)

/-- Go on with a pass whose collaborator has answered. -/
def resume (world : World) (waiting : Waiting) : World × Option Waiting :=
  match (world.makeAll waiting.moves).wait waiting.rest waiting.later with
  | (after, some further) => (after, some further)
  | (after, none) => after.runPass waiting.rest

/-- Where a loop stands after its pass ended or has to wait. -/
def phaseAfter (ticker : Ticker) : Option Waiting → LoopPhase
  | some waiting => .passing ticker waiting
  | none => .resting ticker

/-- Let a loop do what it has to do next. Of two open choices it takes the one that is tossed. -/
def stepLoop (world : World) (tossed : LoopChoice) (loop : Loop) : World × Loop :=
  match loop.phase with
  | .resting ticker =>
      match chosen? tossed (loopChoices world.cancelled ticker world.time) with
      | none => (world, loop)
      | some .stop => (world, { loop with phase := .ended })
      | some .pass =>
          let (after, waiting) := world.runPass loop.pass
          (after, { loop with phase := phaseAfter (ticker.take world.time) waiting })
  | .passing ticker waiting =>
      let (after, further) := world.resume waiting
      (after, { loop with phase := phaseAfter ticker further })
  | .ended | .crashed => (world, loop)

/-- The place of the loop that comes due first, and when it does. -/
def nextLoop? (loops : List Loop) : Option (Nat × Nat) :=
  let due := loops.zipIdx.filterMap fun (loop, index) => loop.due?.map fun moment => (moment, index)
  due.foldl (fun first other =>
    match first with
    | some (moment, _) => if other.1 < moment then some other else first
    | none => some other) none

/-- Let the loops run that come due before a moment, at most so many times. -/
def runLoops (horizon : Nat) : (bound : Nat) → World → World
  | 0, world => world
  | bound + 1, world =>
      match nextLoop? world.loops with
      | none => world
      | some (moment, index) =>
          if horizon ≤ moment then world
          else
            match world.loops[index]? with
            | none => world
            | some loop =>
                let now := { world with time := max world.time moment }
                let (after, loop) := now.stepLoop (world.coin world.turn) loop
                runLoops horizon bound
                  { after with loops := after.loops.set index loop, turn := world.turn + 1 }

/-- How often loops can come due before a moment: a tick moves the deadline of its loop on, and
every wait uses up an interlude. -/
def bound (world : World) (horizon : Nat) : Nat :=
  world.loops.length * (horizon + 1) + world.fakes.hooks.length +
    world.loops.foldl (fun count loop =>
      match loop.phase with
      | .passing _ waiting => count + waiting.later.length + 1
      | _ => count) 0

/-- Let time pass. -/
def sleep (world : World) (millis : Nat) : World :=
  let horizon := world.time + millis
  let after := runLoops horizon (world.bound horizon) world
  { after with time := horizon }

/-- Wait in the foreground while a collaborator is busy. -/
def sit (world : World) (interlude : Interlude) : World :=
  (if interlude.delay = 0 then world else world.sleep interlude.delay).makeAll interlude.moves

/-- Run an operation in the foreground to its end. -/
def run {α : Type} (world : World) : Steps α → α × World
  | .done result => (result, world)
  | .ask .readClock next => world.run (next world.desk.clock.now)
  | .ask (.usePool op) next =>
      let (reply, after) := world.use op
      after.run (next reply)
  | .ask (.call call) next =>
      let (answer, interludes, after) := world.respond call
      (interludes.foldl sit after).run (next answer)

/-- Run an operation while competing callers come between its attempts to claim a slot. -/
def runAgainst {α : Type} (world : World) (race : List (List Move)) (steps : Steps α) :
    α × World :=
  let (result, after) := { world with race }.run steps
  (result, { after with race := [] })

/-! ### Loops -/

/-- Start the loop that pauses idle workspaces and the one that serves the queue. -/
def spawn (world : World) (brokerUrl : String) (settings : UpkeepSettings) : World :=
  { world with
    cancelled := false
    loops := world.loops ++
      [Loop.start world.time settings.pauseInterval
          (pauseIdleSlots settings.idleTimeout >>= fun _ => pure ()),
        Loop.start world.time settings.queueInterval
          (serveQueue brokerUrl >>= fun _ => pure ())] }

/-- Let every loop that has nothing else to do notice that it is cancelled. -/
def stopResting (world : World) : World :=
  { world with loops := world.loops.map fun loop =>
      match loop.phase with
      | .resting ticker =>
          if ticker.isReady world.time then loop else { loop with phase := .ended }
      | _ => loop }

/-- Let the loops do what they have left to do, at most so many times. -/
def finishPasses : (bound : Nat) → World → World
  | 0, world => world
  | bound + 1, world =>
      let world := world.stopResting
      match nextLoop? world.loops with
      | none => world
      | some (moment, _) =>
          finishPasses bound (runLoops (moment + 1) 1 world)

/-- Cancel the loops, wait until they have ended, and count those that ended as they should. There
is nothing to count where none was started. -/
def cancel (world : World) : Option Nat × World :=
  if world.loops.isEmpty then (none, world)
  else
    let world := { world with cancelled := true }
    -- Behind a wait, a loop finds at most one late tick ready or a few in time.
    let after := finishPasses ((Ticker.tolerance + 2) * world.bound 0 + 1) world
    (some (after.loops.countP (·.hasEnded)), { after with loops := [], cancelled := false })

end World

end WorkspacePool.Simulation
