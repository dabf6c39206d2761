import WorkspacePool.Proofs.Pool.Booking
import WorkspacePool.Proofs.Workflow.Orders

/-!
Operations among other callers. Before every step of an operation others may have used the pool in
any way, the clock may read anything, and a collaborator may answer anything. An operation leaves a
trail: its steps, each with the pool that it found. `Withstands` says what holds of the trail in the
end whatever the others do, and is read off the operation step by step.
-/

namespace WorkspacePool.Workflow

namespace Step

variable (pool : Pool) (now : Millis)

/-- What a step comes back with from the pool that it finds, the clock or a collaborator. -/
def respond (answer : (asked : Call) → asked.Answer) : (step : Step) → step.Answer
  | .readClock => now
  | .usePool op => (pool.perform now op).1
  | .call asked => answer asked

/-- The pool that a step leaves behind. -/
def leave : Step → Pool
  | .usePool op => (pool.perform now op).2
  | .readClock | .call _ => pool

end Step

theorem sound_leave {pool : Pool} (sound : pool.Sound) (now : Millis) (step : Step) :
    (step.leave pool now).Sound := by
  cases step with
  | usePool op => exact (Pool.perform_effect sound now op).sound sound
  | readClock => exact sound
  | call call => exact sound

/-- A step that was taken: the pool that it found, and what it came back with. -/
structure Taken where
  pool : Pool
  now : Millis
  step : Step
  answer : step.Answer

namespace Taken

def exchange? : Taken → Option Exchange
  | ⟨_, _, .call call, answer⟩ => some ⟨call, answer⟩
  | _ => none

/-- The slot that the step claimed or freed. -/
def booking? : Taken → Option Booking
  | ⟨_, _, .usePool op, reply⟩ => op.booking? reply
  | _ => none

end Taken

/-- A step among other callers, and what they did since the step before. -/
structure Stride extends Taken where
  others : List Use

/-- How far an operation has come: the pool, and the steps that were taken. -/
structure Trail where
  pool : Pool
  strides : List Stride

/-- What an operation finds around it when it is not alone. -/
structure Company extends Surroundings where
  others : Nat → List Use

namespace Trail

/-- An operation that has taken no step. -/
def start (pool : Pool) : Trail := ⟨pool, []⟩

/-- A further step, before which others have used the pool. -/
def stride (trail : Trail) (others : List Use) (now : Millis) (step : Step) (answer : step.Answer) :
    Stride :=
  { pool := trail.pool.run others, now, step, answer, others }

def after (trail : Trail) (others : List Use) (now : Millis) (step : Step) (answer : step.Answer) :
    Trail :=
  { pool := step.leave (trail.pool.run others) now
    strides := trail.strides ++ [trail.stride others now step answer] }

def run {α : Type} (company : Company) (trail : Trail) : Steps α → α × Trail
  | .done result => (result, trail)
  | .ask step next =>
      let moment := trail.strides.length
      let others := company.others moment
      let now := company.reading moment
      let answer := step.respond (trail.pool.run others) now (company.answer moment)
      (trail.after others now step answer).run company (next answer)

/-- What a view shows of the steps, in their order. -/
def all {β : Type} (view : Taken → Option β) (trail : Trail) : List β :=
  trail.strides.filterMap fun stride => view stride.toTaken

def exchanges (trail : Trail) : List Exchange := trail.all (·.exchange?)

/-- The slots that the operation itself claimed and freed. -/
def bookings (trail : Trail) : List Booking := trail.all (·.booking?)

end Trail

section Views

variable {β : Type} {trail : Trail} {others : List Use} {now : Millis}

theorem all_after (view : Taken → Option β) (step : Step) (answer : step.Answer) :
    (trail.after others now step answer).all view =
      trail.all view ++ (view ⟨trail.pool.run others, now, step, answer⟩).toList := by
  cases shown : view ⟨trail.pool.run others, now, step, answer⟩ <;>
    simp [Trail.all, Trail.after, Trail.stride, shown]

@[simp] theorem exchanges_after (step : Step) (answer : step.Answer) :
    (trail.after others now step answer).exchanges =
      trail.exchanges ++ (Taken.exchange? ⟨trail.pool.run others, now, step, answer⟩).toList :=
  all_after _ _ _

@[simp] theorem bookings_after (step : Step) (answer : step.Answer) :
    (trail.after others now step answer).bookings =
      trail.bookings ++ (Taken.booking? ⟨trail.pool.run others, now, step, answer⟩).toList :=
  all_after _ _ _

end Views

/-- Whatever the others do, the clock reads and the collaborators answer, an operation ends as it
should. -/
def Withstands {α : Type} (goal : α → Trail → Prop) : Steps α → Trail → Prop
  | .done result, trail => goal result trail
  | .ask step next, trail =>
      ∀ (others : List Use) (now : Millis) (answers : (call : Call) → call.Answer),
        let answer := step.respond (trail.pool.run others) now answers
        Withstands goal (next answer) (trail.after others now step answer)

section Rules

variable {α β : Type} {goal stronger : α → Trail → Prop} {trail : Trail} {steps : Steps α}

/-- What an operation withstands holds after every run of it. -/
theorem Withstands.run (withstands : Withstands goal steps trail) (company : Company) :
    goal (trail.run company steps).1 (trail.run company steps).2 := by
  induction steps generalizing trail with
  | done result => exact withstands
  | ask step next ih => exact ih _ (withstands _ _ _)

theorem Withstands.mono (withstands : Withstands stronger steps trail)
    (weaken : ∀ result after, stronger result after → goal result after) :
    Withstands goal steps trail := by
  induction steps generalizing trail with
  | done result => exact weaken result trail withstands
  | ask step next ih => exact fun others now answers => ih _ (withstands others now answers)

theorem Withstands.bind {next : α → Steps β} {goal : β → Trail → Prop}
    (first : Withstands (fun result after => Withstands goal (next result) after) steps trail) :
    Withstands goal (steps >>= next) trail := by
  induction steps generalizing trail with
  | done result => exact first
  | ask step rest ih => exact fun others now answers => ih _ (first others now answers)

theorem Withstands.seq {next : α → Steps β} {goal : β → Trail → Prop}
    (first : Withstands stronger steps trail)
    (second : ∀ result after, stronger result after → Withstands goal (next result) after) :
    Withstands goal (steps >>= next) trail :=
  .bind (first.mono second)

theorem Withstands.map {change : α → β} {goal : β → Trail → Prop}
    (first : Withstands (fun result after => goal (change result) after) steps trail) :
    Withstands goal (change <$> steps) trail :=
  .bind first

theorem Withstands.pure {result : α} (reached : goal result trail) :
    Withstands goal (pure result) trail := reached

/-- What holds in every case need not be followed step by step. -/
theorem Withstands.always (holds : ∀ result after, goal result after) :
    Withstands goal steps trail := by
  induction steps generalizing trail with
  | done result => exact holds result trail
  | ask step next ih => exact fun others now answers => ih _

theorem Withstands.look {next : Millis → Steps α}
    (withstands : ∀ others now,
      Withstands goal (next now) (trail.after others now .readClock now)) :
    Withstands goal (Steps.now >>= next) trail :=
  fun others now _ => withstands others now

theorem Withstands.use {op : PoolOp} {next : op.Reply → Steps α}
    (withstands : ∀ others now,
      Withstands goal (next ((trail.pool.run others).perform now op).1)
        (trail.after others now (.usePool op) ((trail.pool.run others).perform now op).1)) :
    Withstands goal (Steps.usePool op >>= next) trail :=
  fun others now _ => withstands others now

theorem Withstands.call {call : Call} {next : call.Answer → Steps α}
    (withstands : ∀ others now (answer : call.Answer),
      Withstands goal (next answer) (trail.after others now (.call call) answer)) :
    Withstands goal (Steps.call call >>= next) trail :=
  fun others now answers => withstands others now (answers call)

end Rules

/-! ### Nobody else -/

/-- Company that leaves an operation alone. -/
def Company.nobody (around : Surroundings) : Company := { around with others := fun _ => [] }

/-- Company that uses the pool before one step only. The clock stands still, and collaborators do as
they are asked. -/
def Company.interfering (moment : Nat) (uses : List Use) : Company :=
  { reading := fun _ => 0
    answer := fun _ => fun
      | .publish _ | .assign _ _ | .release _ _ => .ok ()
      | .lookUpToken _ => .error .notConfigured
    others := fun other => if other = moment then uses else [] }

/-- The scene that a trail ends in. -/
def Trail.scene (trail : Trail) : Scene :=
  { pool := trail.pool, exchanges := trail.exchanges, moment := trail.strides.length }

section Nobody

variable {trail : Trail} {now : Millis}

theorem scene_after_look :
    (trail.after [] now .readClock now).scene = trail.scene.afterReading := by
  simp only [Trail.scene, exchanges_after, Taken.exchange?]
  simp [Trail.after, Scene.afterReading, Step.leave, Pool.run]

theorem scene_after_use {op : PoolOp} {reply : op.Reply} :
    (trail.after [] now (.usePool op) reply).scene = trail.scene.afterUse now op := by
  simp only [Trail.scene, exchanges_after, Taken.exchange?]
  simp [Trail.after, Scene.afterUse, Step.leave, Pool.run]

theorem scene_after_call {call : Call} {answer : call.Answer} :
    (trail.after [] now (.call call) answer).scene = trail.scene.afterCall ⟨call, answer⟩ := by
  simp only [Trail.scene, exchanges_after, Taken.exchange?]
  simp [Trail.after, Scene.afterCall, Step.leave, Pool.run]

end Nobody

/-- Among others who do nothing an operation runs as it does alone. -/
theorem run_nobody {α : Type} (around : Surroundings) (trail : Trail) (steps : Steps α) :
    trail.scene.run around steps =
      ((trail.run (.nobody around) steps).1, (trail.run (.nobody around) steps).2.scene) := by
  induction steps generalizing trail with
  | done result => rfl
  | ask step next ih =>
      refine Eq.trans ?_ (ih _ _)
      cases step with
      | readClock =>
          exact congrArg (fun scene => Scene.run around scene (next _)) scene_after_look.symm
      | usePool op =>
          exact congrArg (fun scene => Scene.run around scene (next _)) scene_after_use.symm
      | call call =>
          exact congrArg (fun scene => Scene.run around scene (next _)) scene_after_call.symm

end WorkspacePool.Workflow
