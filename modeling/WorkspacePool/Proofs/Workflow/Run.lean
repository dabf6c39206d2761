import WorkspacePool.Workflow.Upkeep
import WorkspacePool.Workflow.Events

/-!
Runs of operations with no other caller in between. The clock may read anything at any step, and a
collaborator may answer anything to any call. `Ensures` says what holds at the end of an operation
whatever they do, and is read off the operation step by step.
-/

namespace WorkspacePool.Workflow

/-- What an operation finds around it: a reading of the clock and an answer to a call, for every
moment. Moments count the steps that were taken. -/
structure Surroundings where
  reading : Nat → Millis
  answer : Nat → (call : Call) → call.Answer

structure Exchange where
  call : Call
  answer : call.Answer

/-- Where operations stand: the pool, the calls that were made, and how many steps were taken. -/
structure Scene where
  pool : Pool
  exchanges : List Exchange
  moment : Nat

namespace Scene

def fresh (slotCount : UInt32) (capacity : Nat) (now : Millis) : Scene :=
  { pool := Pool.create slotCount capacity now, exchanges := [], moment := 0 }

def afterReading (scene : Scene) : Scene :=
  { scene with moment := scene.moment + 1 }

def afterUse (scene : Scene) (now : Millis) (op : PoolOp) : Scene :=
  { scene with pool := (scene.pool.perform now op).2, moment := scene.moment + 1 }

def afterCall (scene : Scene) (exchange : Exchange) : Scene :=
  { scene with exchanges := scene.exchanges ++ [exchange], moment := scene.moment + 1 }

def run {α : Type} (around : Surroundings) (scene : Scene) : Steps α → α × Scene
  | .done result => (result, scene)
  | .ask .readClock next => scene.afterReading.run around (next (around.reading scene.moment))
  | .ask (.usePool op) next =>
      let now := around.reading scene.moment
      (scene.afterUse now op).run around (next (scene.pool.perform now op).1)
  | .ask (.call call) next =>
      let answer := around.answer scene.moment call
      (scene.afterCall ⟨call, answer⟩).run around (next answer)

theorem run_bind {α β : Type} (around : Surroundings) (scene : Scene) (steps : Steps α)
    (next : α → Steps β) :
    scene.run around (steps >>= next) =
      (scene.run around steps).2.run around (next (scene.run around steps).1) := by
  induction steps generalizing scene with
  | done result => rfl
  | ask step rest ih =>
      cases step with
      | readClock => exact ih _ _
      | usePool op => exact ih _ _
      | call call => exact ih _ _

theorem run_map {α β : Type} (around : Surroundings) (scene : Scene) (steps : Steps α)
    (change : α → β) :
    (scene.run around (change <$> steps)).2 = (scene.run around steps).2 :=
  congrArg Prod.snd (run_bind around scene steps fun result => pure (change result))

end Scene

/-- Whatever the clock reads and the collaborators answer, an operation ends as it should. -/
def Ensures {α : Type} (goal : α → Scene → Prop) : Steps α → Scene → Prop
  | .done result, scene => goal result scene
  | .ask .readClock next, scene => ∀ now, Ensures goal (next now) scene.afterReading
  | .ask (.usePool op) next, scene =>
      ∀ now, Ensures goal (next (scene.pool.perform now op).1) (scene.afterUse now op)
  | .ask (.call call) next, scene =>
      ∀ answer, Ensures goal (next answer) (scene.afterCall ⟨call, answer⟩)

section Rules

variable {α β : Type} {goal stronger : α → Scene → Prop} {scene : Scene} {steps : Steps α}

/-- What an operation ensures holds after every run of it. -/
theorem Ensures.run (ensures : Ensures goal steps scene) (around : Surroundings) :
    goal (scene.run around steps).1 (scene.run around steps).2 := by
  induction steps generalizing scene with
  | done result => exact ensures
  | ask step next ih =>
      cases step with
      | readClock => exact ih _ (ensures _)
      | usePool op => exact ih _ (ensures _)
      | call call => exact ih _ (ensures _)

theorem Ensures.mono (ensures : Ensures stronger steps scene)
    (weaken : ∀ result after, stronger result after → goal result after) :
    Ensures goal steps scene := by
  induction steps generalizing scene with
  | done result => exact weaken result scene ensures
  | ask step next ih =>
      cases step with
      | readClock => exact fun now => ih _ (ensures now)
      | usePool op => exact fun now => ih _ (ensures now)
      | call call => exact fun answer => ih _ (ensures answer)

/-- What holds everywhere is ensured by anything. -/
theorem Ensures.always (everywhere : ∀ result after, goal result after) :
    Ensures goal steps scene := by
  induction steps generalizing scene with
  | done result => exact everywhere result scene
  | ask step next ih =>
      cases step with
      | readClock => exact fun now => ih _
      | usePool op => exact fun now => ih _
      | call call => exact fun answer => ih _

theorem Ensures.bind {next : α → Steps β} {goal : β → Scene → Prop}
    (first : Ensures (fun result after => Ensures goal (next result) after) steps scene) :
    Ensures goal (steps >>= next) scene := by
  induction steps generalizing scene with
  | done result => exact first
  | ask step rest ih =>
      cases step with
      | readClock => exact fun now => ih _ (first now)
      | usePool op => exact fun now => ih _ (first now)
      | call call => exact fun answer => ih _ (first answer)

theorem Ensures.seq {next : α → Steps β} {goal : β → Scene → Prop}
    (first : Ensures stronger steps scene)
    (second : ∀ result after, stronger result after → Ensures goal (next result) after) :
    Ensures goal (steps >>= next) scene :=
  .bind (first.mono second)

theorem Ensures.map {change : α → β} {goal : β → Scene → Prop}
    (first : Ensures (fun result after => goal (change result) after) steps scene) :
    Ensures goal (change <$> steps) scene :=
  .bind first

theorem Ensures.pure {result : α} (reached : goal result scene) :
    Ensures goal (pure result) scene := reached

theorem Ensures.look {next : Millis → Steps α}
    (ensures : ∀ now, Ensures goal (next now) scene.afterReading) :
    Ensures goal (Steps.now >>= next) scene := ensures

theorem Ensures.use {op : PoolOp} {next : op.Reply → Steps α}
    (ensures : ∀ now, Ensures goal (next (scene.pool.perform now op).1) (scene.afterUse now op)) :
    Ensures goal (Steps.usePool op >>= next) scene := ensures

theorem Ensures.call {call : Call} {next : call.Answer → Steps α}
    (ensures : ∀ answer, Ensures goal (next answer) (scene.afterCall ⟨call, answer⟩)) :
    Ensures goal (Steps.call call >>= next) scene := ensures

end Rules

/-! ### Operations one after the other -/

/-- What is done with a pool: an event is handled, idle workspaces are paused, the queue is served,
or activity is noted. -/
inductive Operation where
  | handle (event : Event)
  | pauseIdle (idleTimeout : Span)
  | serve
  | noteActivity (projectId : String)
deriving DecidableEq, Repr

def Operation.steps (brokerUrl : String) : Operation → Steps Unit
  | .handle event => do let _ ← Workflow.handle brokerUrl event
  | .pauseIdle idleTimeout => do let _ ← pauseIdleSlots idleTimeout
  | .serve => do let _ ← serveQueue brokerUrl
  | .noteActivity projectId => do let _ ← Workflow.noteActivity projectId

namespace Scene

/-- Run operations one after the other, each to its end. -/
def runAll (around : Surroundings) (brokerUrl : String) (scene : Scene) : List Operation → Scene
  | [] => scene
  | operation :: later =>
      (scene.run around (operation.steps brokerUrl)).2.runAll around brokerUrl later

/-- What every operation keeps is kept by all of them. -/
theorem runAll_keeps {kept : Scene → Prop} {brokerUrl : String}
    (keeps : ∀ (operation : Operation) (scene : Scene), kept scene →
      Ensures (fun _ after => kept after) (operation.steps brokerUrl) scene)
    (around : Surroundings) {scene : Scene} (start : kept scene) (operations : List Operation) :
    kept (scene.runAll around brokerUrl operations) := by
  induction operations generalizing scene with
  | nil => exact start
  | cons operation later ih => exact ih ((keeps operation scene start).run around)

end Scene

end WorkspacePool.Workflow
