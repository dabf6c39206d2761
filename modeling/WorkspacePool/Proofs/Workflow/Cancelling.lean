import Mathlib.Tactic
import WorkspacePool.Simulation.Schedule

/-!
What a loop still does once it is cancelled. Between two passes it waits until a tick is ready or it
is cancelled, and where both are so it may do either. Passes may take any time, so a tick may come
due while a pass is made, and then the loop may begin another one although it is cancelled.
-/

namespace WorkspacePool

namespace Workflow

/-- A pass of a loop, however long it takes. -/
structure TimedPass where
  begun : Nat
  length : Nat
deriving DecidableEq, Repr

def TimedPass.ended (pass : TimedPass) : Nat := pass.begun + pass.length

namespace Ticker

variable {ticker : Ticker} {cancelled since moment ended : Nat} {choice : LoopChoice}
  {pass : TimedPass} {passes before after : List TimedPass}

/-! ### Choices -/

theorem mem_loopChoices {isCancelled : Bool} : choice ∈ loopChoices isCancelled ticker moment ↔
    (choice = .pass ∧ ticker.deadline ≤ moment) ∨ (choice = .stop ∧ isCancelled = true) := by
  cases choice <;> simp [loopChoices, isReady]

/-- A loop that has rested since a moment makes a choice as soon as it has one. It is cancelled from
a moment on. -/
structure Chooses (ticker : Ticker) (cancelled since : Nat) (choice : LoopChoice)
    (moment : Nat) : Prop where
  later : since ≤ moment
  isOpen : choice ∈ loopChoices (cancelled ≤ moment) ticker moment
  first : ∀ earlier, since ≤ earlier → earlier < moment →
    loopChoices (cancelled ≤ earlier) ticker earlier = []

theorem no_loopChoices {isCancelled : Bool} : loopChoices isCancelled ticker moment = [] ↔
    moment < ticker.deadline ∧ isCancelled = false := by
  rw [List.eq_nil_iff_forall_not_mem]
  constructor
  · intro none
    have resting := mt mem_loopChoices.mpr (none .pass)
    have going := mt mem_loopChoices.mpr (none .stop)
    simpa using And.intro resting going
  · rintro ⟨early, going⟩ choice isOpen
    rcases mem_loopChoices.mp isOpen with ⟨-, ready⟩ | ⟨-, isCancelled⟩
    · exact absurd ready (Nat.not_le.mpr early)
    · rw [going] at isCancelled
      contradiction

/-- A pass is begun as soon as the tick is ready, unless the loop is cancelled and rests before
that. -/
theorem chooses_pass_iff : ticker.Chooses cancelled since .pass moment ↔
    moment = max since ticker.deadline ∧ ticker.deadline ≤ max since cancelled := by
  constructor
  · rintro ⟨later, isOpen, first⟩
    have ready : ticker.deadline ≤ moment := by simpa [mem_loopChoices] using isOpen
    have unready := first (moment - 1)
    simp only [no_loopChoices, decide_eq_false_iff_not] at unready
    omega
  · rintro ⟨rfl, early⟩
    refine ⟨by omega, by simp [mem_loopChoices], fun earlier rests sooner => ?_⟩
    simp only [no_loopChoices, decide_eq_false_iff_not]
    omega

/-- A loop stops as soon as it is cancelled and rests, unless the tick is ready before that. -/
theorem chooses_stop_iff : ticker.Chooses cancelled since .stop moment ↔
    moment = max since cancelled ∧ cancelled ≤ max since ticker.deadline := by
  constructor
  · rintro ⟨later, isOpen, first⟩
    have isCancelled : cancelled ≤ moment := by simpa [mem_loopChoices] using isOpen
    have going := first (moment - 1)
    simp only [no_loopChoices, decide_eq_false_iff_not] at going
    omega
  · rintro ⟨rfl, early⟩
    refine ⟨by omega, by simp [mem_loopChoices], fun earlier rests sooner => ?_⟩
    simp only [no_loopChoices, decide_eq_false_iff_not]
    omega

/-- Of the open choices, any may be taken by the toss, and no other one is. -/
theorem chosen?_cases (tossed : LoopChoice) (choices : List LoopChoice) :
    (choices = [] ∧ chosen? tossed choices = none) ∨
      ∃ choice ∈ choices, chosen? tossed choices = some choice ∧
        (tossed ∈ choices → choice = tossed) := by
  by_cases isOpen : tossed ∈ choices
  · exact .inr ⟨tossed, isOpen, if_pos isOpen, fun _ => rfl⟩
  · rw [chosen?, if_neg isOpen]
    cases choices with
    | nil => exact .inl ⟨rfl, rfl⟩
    | cons first rest => exact .inr ⟨first, List.mem_cons_self, rfl, (absurd · isOpen)⟩

/-! ### Passes one after the other -/

/-- The ticker behind passes. -/
def behind (ticker : Ticker) (passes : List TimedPass) : Ticker :=
  passes.foldl (fun ticker pass => ticker.take pass.begun) ticker

/-- Since when a loop rests behind passes. -/
def restsSince (since : Nat) (passes : List TimedPass) : Nat :=
  passes.foldl (fun _ pass => pass.ended) since

@[simp] theorem behind_append : ticker.behind (before ++ after) = (ticker.behind before).behind after :=
  List.foldl_append

@[simp] theorem restsSince_append : restsSince since (before ++ after) =
    restsSince (restsSince since before) after :=
  List.foldl_append

/-- A loop that rests since a moment makes passes. -/
inductive Makes (cancelled : Nat) : Ticker → Nat → List TimedPass → Prop
  | none (ticker : Ticker) (since : Nat) : Makes cancelled ticker since []
  | pass {ticker : Ticker} {since : Nat} {pass : TimedPass} {passes : List TimedPass}
      (begins : ticker.Chooses cancelled since .pass pass.begun)
      (makes : Makes cancelled (ticker.take pass.begun) pass.ended passes) :
      Makes cancelled ticker since (pass :: passes)

theorem makes_append : Makes cancelled ticker since (before ++ after) ↔
    Makes cancelled ticker since before ∧
      Makes cancelled (ticker.behind before) (restsSince since before) after := by
  induction before generalizing ticker since with
  | nil => exact ⟨fun makes => ⟨.none _ _, makes⟩, And.right⟩
  | cons pass passes ih =>
      constructor
      · rintro (_ | ⟨begins, makes⟩)
        exact ⟨.pass begins (ih.mp makes).1, (ih.mp makes).2⟩
      · rintro ⟨_ | ⟨begins, makes⟩, later⟩
        exact .pass begins (ih.mpr ⟨makes, later⟩)

/-- A pass among others begins as soon as the tick is ready and the one before has ended, and that
tick comes no later than the end of the one before or the cancellation. -/
theorem Makes.begins (makes : Makes cancelled ticker since (before ++ pass :: after)) :
    pass.begun = max (restsSince since before) (ticker.behind before).deadline ∧
      (ticker.behind before).deadline ≤ max (restsSince since before) cancelled := by
  obtain ⟨-, _ | ⟨begins, -⟩⟩ := makes_append.mp makes
  exact chooses_pass_iff.mp begins

/-- The next tick behind one that was ready comes within a period. -/
theorem deadline_take_le (ready : ticker.deadline ≤ moment) :
    (ticker.take moment).deadline ≤ moment + ticker.period := by
  rw [take]
  split
  · exact Nat.sub_le _ _
  · exact Nat.add_le_add_right ready _

theorem Makes.last_iff (makes : Makes cancelled ticker since passes) :
    (∀ further, Makes cancelled ticker since (passes ++ further) → further = []) ↔
      max (restsSince since passes) cancelled < (ticker.behind passes).deadline := by
  constructor
  · intro last
    by_contra! early
    let next : TimedPass := ⟨max (restsSince since passes) (ticker.behind passes).deadline, 0⟩
    have begins : (ticker.behind passes).Chooses cancelled (restsSince since passes) .pass
        next.begun := chooses_pass_iff.mpr ⟨rfl, early⟩
    have none := last [next] (makes_append.mpr ⟨makes, .pass begins (.none _ _)⟩)
    exact List.cons_ne_nil _ _ none
  · intro late further more
    cases further with
    | nil => rfl
    | cons pass after =>
        have begins := more.begins
        omega

/-- A loop that rests when it is cancelled, and has its tick ready, may stop or begin a pass. -/
theorem Makes.open_choice (makes : Makes cancelled ticker since passes)
    (isCancelled : cancelled ≤ restsSince since passes)
    (ready : (ticker.behind passes).deadline ≤ restsSince since passes) :
    (ticker.behind passes).Chooses cancelled (restsSince since passes) .stop
        (restsSince since passes) ∧
      ∀ length, Makes cancelled ticker since (passes ++ [⟨restsSince since passes, length⟩]) := by
  refine ⟨chooses_stop_iff.mpr (by omega), fun length => ?_⟩
  have begins : (ticker.behind passes).Chooses cancelled (restsSince since passes) .pass
      (restsSince since passes) := chooses_pass_iff.mpr (by omega)
  exact makes_append.mpr ⟨makes, .pass begins (.none _ _)⟩

/-- Where passes take long enough, any number of them is begun after the cancellation. -/
theorem Makes.go_on (early : ticker.deadline ≤ max since cancelled) (count : Nat) :
    ∃ passes, Makes cancelled ticker since passes ∧
      count ≤ (passes.filter (cancelled ≤ ·.begun)).length ∧
      cancelled ≤ restsSince since passes ∧
      (ticker.behind passes).deadline ≤ restsSince since passes := by
  induction count with
  | zero =>
      let first : TimedPass := ⟨max since ticker.deadline, cancelled + ticker.period⟩
      have begins : ticker.Chooses cancelled since .pass first.begun :=
        chooses_pass_iff.mpr ⟨rfl, early⟩
      have next : (ticker.take first.begun).deadline ≤ first.begun + ticker.period :=
        deadline_take_le (Nat.le_max_right _ _)
      refine ⟨[first], .pass begins (.none _ _), Nat.zero_le _, ?_, ?_⟩
      · exact (Nat.le_add_right ..).trans (Nat.le_add_left ..)
      · exact next.trans (Nat.add_le_add_left (Nat.le_add_left ..) _)
  | succ count ih =>
      obtain ⟨passes, makes, many, isCancelled, ready⟩ := ih
      let further : TimedPass := ⟨restsSince since passes, (ticker.behind passes).period⟩
      refine ⟨passes ++ [further], (makes.open_choice isCancelled ready).2 _, ?_, ?_, ?_⟩
      · have counts : [further].filter (cancelled ≤ ·.begun) = [further] := by
          simpa [further] using isCancelled
        rw [List.filter_append, counts, List.length_append]
        exact Nat.succ_le_succ many
      · rw [restsSince_append]
        exact isCancelled.trans (Nat.le_add_right ..)
      · rw [restsSince_append, behind_append]
        exact deadline_take_le ready

end Ticker

end Workflow

namespace Simulation

open Workflow (LoopChoice loopChoices)

variable {world : World} {loop : Loop} {ticker : Workflow.Ticker}

/-- A loop that rests does what it has a choice to do, and of two choices what is tossed. -/
theorem World.stepLoop_resting (rests : loop.phase = .resting ticker) (tossed : LoopChoice) :
    (loopChoices world.cancelled ticker world.time = [] ∧
        world.stepLoop tossed loop = (world, loop)) ∨
      ∃ choice ∈ loopChoices world.cancelled ticker world.time,
        (tossed ∈ loopChoices world.cancelled ticker world.time → choice = tossed) ∧
        (choice = .stop → (world.stepLoop tossed loop).2.phase = .ended) ∧
        (choice = .pass → ∃ waiting,
          (world.stepLoop tossed loop).2.phase = phaseAfter (ticker.take world.time) waiting) := by
  rw [stepLoop, rests]
  dsimp only
  rcases Workflow.Ticker.chosen?_cases tossed (loopChoices world.cancelled ticker world.time) with
    ⟨none, taken⟩ | ⟨choice, isOpen, taken, tossedIt⟩
  · exact .inl ⟨none, by rw [taken]⟩
  · refine .inr ⟨choice, isOpen, tossedIt, ?_, ?_⟩
    · rintro rfl
      rw [taken]
    · rintro rfl
      rw [taken]
      exact ⟨_, rfl⟩

/-- A pass goes on, whether or not the loop is cancelled. -/
theorem World.stepLoop_passing {waiting : Waiting} (passes : loop.phase = .passing ticker waiting)
    (tossed : LoopChoice) :
    ∃ further, (world.stepLoop tossed loop).2.phase = phaseAfter ticker further := by
  rw [stepLoop, passes]
  exact ⟨_, rfl⟩

theorem World.spawn_phases (world : World) (brokerUrl : String)
    (settings : Workflow.UpkeepSettings) :
    (world.spawn brokerUrl settings).loops.map (·.phase) = world.loops.map (·.phase) ++
      [settings.pauseInterval, settings.queueInterval].map fun interval =>
        (Workflow.Ticker.start? world.time interval).elim .crashed .resting := by
  simp [spawn, Loop.start]

end Simulation

namespace Workflow

open Simulation (Loop World)

/-- What the loops do once they are cancelled. Both rest until the tick that is a period away. From
then on, with passes of any length and a cancellation at any moment, a loop that stops does so as
soon as it is cancelled and rests. A pass that is begun after the cancellation has its tick ready;
it begins when the pass before ends, which has lasted until that tick, or at the very moment of the
cancellation, if the tick comes at that. Behind some passes no other is begun exactly if the next
tick comes after the last one has ended and after the cancellation. Where a loop comes to rest, is
cancelled and has its tick ready, it may stop as well as begin another pass, so any number of passes
may be begun after the cancellation. In a world, a loop that rests does what it has a choice to do,
and of two choices what is tossed; a pass goes on whether or not the loop is cancelled. -/
theorem passes_after_cancellation (ticker : Ticker) (cancelled since : Nat) :
    (∀ (world : World) (brokerUrl : String) (settings : UpkeepSettings),
      (world.spawn brokerUrl settings).loops.map (·.phase) = world.loops.map (·.phase) ++
        [settings.pauseInterval, settings.queueInterval].map fun interval =>
          (Ticker.start? world.time interval).elim .crashed .resting) ∧
    (∀ passes, ticker.Makes cancelled since passes →
      let rests := Ticker.restsSince since passes
      (∀ ended, (ticker.behind passes).Chooses cancelled rests .stop ended →
        ended = max rests cancelled) ∧
      (∀ before pass after, passes = before ++ pass :: after → cancelled ≤ pass.begun →
        (ticker.behind before).deadline ≤ pass.begun ∧
        (pass.begun = Ticker.restsSince since before ∨
          pass.begun = cancelled ∧ (ticker.behind before).deadline = cancelled)) ∧
      ((∀ further, ticker.Makes cancelled since (passes ++ further) → further = []) ↔
        max rests cancelled < (ticker.behind passes).deadline) ∧
      (cancelled ≤ rests → (ticker.behind passes).deadline ≤ rests →
        (ticker.behind passes).Chooses cancelled rests .stop rests ∧
        ∀ length, ticker.Makes cancelled since (passes ++ [⟨rests, length⟩]))) ∧
    (ticker.deadline ≤ max since cancelled → ∀ count, ∃ passes,
      ticker.Makes cancelled since passes ∧
      count ≤ (passes.filter (cancelled ≤ ·.begun)).length) ∧
    ∀ (world : World) (loop : Loop) (tossed : LoopChoice),
      (loop.phase = .resting ticker →
        let choices := loopChoices world.cancelled ticker world.time
        (choices = [] ∧ world.stepLoop tossed loop = (world, loop)) ∨
        ∃ choice ∈ choices, (tossed ∈ choices → choice = tossed) ∧
          (choice = .stop → (world.stepLoop tossed loop).2.phase = .ended) ∧
          (choice = .pass → ∃ waiting, (world.stepLoop tossed loop).2.phase =
            World.phaseAfter (ticker.take world.time) waiting)) ∧
      ∀ waiting, loop.phase = .passing ticker waiting → ∃ further,
        (world.stepLoop tossed loop).2.phase = World.phaseAfter ticker further := by
  refine ⟨World.spawn_phases,
    fun passes makes => ⟨?_, ?_, makes.last_iff, makes.open_choice⟩, ?_, ?_⟩
  · intro ended stops
    exact (Ticker.chooses_stop_iff.mp stops).1
  · rintro before pass after rfl isCancelled
    have begins := makes.begins
    omega
  · intro early count
    obtain ⟨passes, made, many, -⟩ := Ticker.Makes.go_on early count
    exact ⟨passes, made, many⟩
  · intro world loop tossed
    exact ⟨fun rests => World.stepLoop_resting rests tossed,
      fun waiting passes => World.stepLoop_passing passes tossed⟩

/-- The queue is served every ten seconds, and the second of three requests takes until the tick
after the next. The loop is cancelled meanwhile. Behind the pass it ends when a stop is tossed, and
when a pass is tossed it serves the third request before it ends. -/
theorem cancelled_loop_serves_queue :
    let request (projectId : String) : Request := ⟨projectId, "", "", projectId, "", "", 0⟩
    let pool : Pool :=
      { Pool.create 3 3 0 with waiting := [request "p1", request "p2", request "p3"] }
    let world (tossed : LoopChoice) : World :=
      { desk := ⟨pool, ⟨0⟩⟩
        fakes := { family := .slotPool, tokens := none, hooks := [⟨.assign, 2, ⟨25000, []⟩⟩] }
        coin := fun _ => tossed }
    let later (tossed : LoopChoice) : World :=
      ((world tossed).spawn "amqp://b" { pauseInterval := .ofSeconds 3600 }).sleep 22000
    (later .stop).fakes.projectsSetUp = ["p1", "p2"] ∧ (later .stop).cancel.1 = some 2 ∧
      (later .stop).cancel.2.fakes.projectsSetUp = ["p1", "p2"] ∧
      (later .pass).fakes.projectsSetUp = ["p1", "p2"] ∧ (later .pass).cancel.1 = some 2 ∧
      (later .pass).cancel.2.fakes.projectsSetUp = ["p1", "p2", "p3"] := by
  decide +kernel

end Workflow

end WorkspacePool
