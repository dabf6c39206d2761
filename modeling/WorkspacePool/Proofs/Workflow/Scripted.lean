import WorkspacePool.Proofs.Workflow.Orders
import WorkspacePool.Simulation.Schedule

/-!
Scripted worlds as surroundings. A world whose collaborators have no hooks, and in which nobody
competes for slots, runs an operation as a scene does between a clock that stands and collaborators
that answer by their script.
-/

namespace WorkspacePool.Workflow

open Simulation (Collaborators World)

/-- A scene shows what happens in a world that is left alone. -/
structure Mirrors (now : Millis) (answer : (call : Call) → call.Answer) (world : World)
    (scene : Scene) : Prop where
  pool : world.desk.pool = scene.pool
  clock : world.desk.clock.now = now
  answers : ∀ call, (world.fakes.answer call).1 = answer call
  directives : world.fakes.directives = (scene.orders world.fakes.family).map (·.directive)
  unhooked : world.fakes.hooks = []
  unrivalled : world.race = []

/-- Surroundings that stay as they are. -/
def Surroundings.fixed (now : Millis) (answer : (call : Call) → call.Answer) : Surroundings :=
  ⟨fun _ => now, fun _ => answer⟩

variable {now : Millis} {answer : (call : Call) → call.Answer} {world : World} {scene : Scene}

/-- Collaborators record what they are asked, and directives as a provisioner of the family gets
them. -/
theorem answer_records (fakes : Collaborators) (call : Call) (reply : call.Answer) :
    ∃ reports lookups, (fakes.answer call).2 = { fakes with
      directives := fakes.directives ++
        ((Exchange.order? fakes.family ⟨call, reply⟩).map (·.directive)).toList
      reports, lookups } := by
  cases call with
  | publish report =>
      refine ⟨fakes.reports ++ [report], fakes.lookups, ?_⟩
      simp only [Exchange.order?, Option.map_none, Option.toList_none, List.append_nil]
      rfl
  | assign slot assignment => exact ⟨fakes.reports, fakes.lookups, rfl⟩
  | release slot projectId => exact ⟨fakes.reports, fakes.lookups, rfl⟩
  | lookUpToken userId =>
      simp only [Collaborators.answer, Collaborators.lookUp, Exchange.order?, Option.map_none,
        Option.toList_none, List.append_nil]
      split
      · exact ⟨fakes.reports, fakes.lookups, rfl⟩
      · split
        · exact ⟨fakes.reports, fakes.lookups ++ [userId], rfl⟩
        · exact ⟨fakes.reports, fakes.lookups ++ [userId], rfl⟩

/-- What is recorded does not bear on answers. -/
theorem answer_of_records (fakes : Collaborators) (directives : List Directive)
    (reports : List Report) (lookups : List String) (call : Call) :
    (Collaborators.answer { fakes with directives, reports, lookups } call).1 =
      (fakes.answer call).1 := by
  cases call with
  | publish report => rfl
  | assign slot assignment => rfl
  | release slot projectId => rfl
  | lookUpToken userId =>
      simp only [Collaborators.answer, Collaborators.lookUp]
      split
      · rfl
      · split <;> rfl

theorem Mirrors.use (mirrors : Mirrors now answer world scene) (op : PoolOp) :
    (world.use op).1 = (scene.pool.perform now op).1 ∧
      Mirrors now answer (world.use op).2 (scene.afterUse now op) := by
  have alone : world.use op =
      ((world.desk.use op).1, { world with desk := (world.desk.use op).2 }) := by
    cases op <;> simp [World.use, mirrors.unrivalled]
  have performed : world.desk.use op = ((scene.pool.perform now op).1,
      { world.desk with pool := (scene.pool.perform now op).2 }) := by
    rw [Simulation.Desk.use, mirrors.pool, mirrors.clock]
  rw [alone, performed]
  exact ⟨rfl, rfl, mirrors.clock, mirrors.answers, mirrors.directives, mirrors.unhooked,
    mirrors.unrivalled⟩

theorem Mirrors.call (mirrors : Mirrors now answer world scene) (call : Call) :
    ∃ after, world.respond call = (answer call, [], after) ∧
      Mirrors now answer after (scene.afterCall ⟨call, answer call⟩) := by
  obtain ⟨reports, lookups, recorded⟩ := answer_records world.fakes call (answer call)
  have unhooked : (world.fakes.answer call).2.hooks = [] := by
    rw [recorded]
    exact mirrors.unhooked
  have responded : world.fakes.respond call = (answer call, [], (world.fakes.answer call).2) := by
    have counted : Simulation.Hook.countAll [] (.of call) = ([], []) := rfl
    simp only [Collaborators.respond, unhooked, counted, mirrors.answers]
    rw [← unhooked]
  refine ⟨{ world with fakes := (world.fakes.answer call).2 }, by rw [World.respond, responded],
    mirrors.pool, mirrors.clock, ?_, ?_, ?_, mirrors.unrivalled⟩
  · intro other
    rw [recorded]
    exact (answer_of_records world.fakes _ _ _ other).trans (mirrors.answers other)
  · simp only [recorded, orders_afterCall, mirrors.directives, List.map_append]
    cases Exchange.order? world.fakes.family ⟨call, answer call⟩ <;> rfl
  · simp only [recorded, mirrors.unhooked]

/-- An operation in a world that is left alone is a run between surroundings that stay. -/
theorem Mirrors.run {α : Type} (mirrors : Mirrors now answer world scene) (steps : Steps α) :
    (world.run steps).1 = (scene.run (.fixed now answer) steps).1 ∧
      Mirrors now answer (world.run steps).2 (scene.run (.fixed now answer) steps).2 := by
  induction steps generalizing world scene with
  | done result => exact ⟨rfl, mirrors⟩
  | ask step next ih =>
      cases step with
      | readClock =>
          simp only [World.run, mirrors.clock]
          exact ih _ ⟨mirrors.pool, mirrors.clock, mirrors.answers, mirrors.directives,
            mirrors.unhooked, mirrors.unrivalled⟩
      | usePool op =>
          obtain ⟨reply, after⟩ := mirrors.use op
          simp only [World.run, reply]
          exact ih _ after
      | call call =>
          obtain ⟨after, responded, later⟩ := mirrors.call call
          simp only [World.run, responded, List.foldl_nil]
          exact ih _ later

end WorkspacePool.Workflow
