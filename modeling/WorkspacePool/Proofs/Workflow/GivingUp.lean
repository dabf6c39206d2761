import WorkspacePool.Proofs.Workflow.Floor
import WorkspacePool.Proofs.Workflow.Redelivery

/-!
Projects that give up their workspace. A release leaves its project without a slot and out of the
queue, and so does a pause of a project that does not wait. A project that waits keeps its place
when it is paused, and runs again once its turn comes. Whoever is gone stays gone until it is
created again, in whatever order the steps of several workers fall.
-/

namespace WorkspacePool.Workflow

/-! ### Operations that avoid a project -/

/-- A step that neither claims a slot for the project nor lets it wait, and neither sets it up nor
reports it to run. The head of the queue may be the project all the same. -/
def Step.avoids (projectId : String) : Step → Bool
  | .usePool (.claim _ claimant _) => claimant != projectId
  | .usePool (.enqueue request) => request.projectId != projectId
  | .call (.assign _ assignment) => assignment.projectId != projectId
  | .call (.publish report) => report.projectId != projectId || report.status != .running
  | _ => true

/-- An answer by which the queue hands out no request of the project. -/
def Step.PassesOver (projectId : String) : (step : Step) → step.Answer → Prop
  | .usePool .claimNext, some (_, request) => request.projectId ≠ projectId
  | _, _ => True

/-- As long as the queue hands out no request of the project, an operation avoids the project, and
ends as it should. -/
def Avoids {α : Type} (projectId : String) (goal : α → Prop) : Steps α → Prop
  | .done result => goal result
  | .ask step next => step.avoids projectId = true ∧
      ∀ answer, step.PassesOver projectId answer → Avoids projectId goal (next answer)

section Rules

variable {α β : Type} {goal stronger : α → Prop} {steps : Steps α} {projectId : String}

theorem Avoids.bind {next : α → Steps β} {goal : β → Prop}
    (first : Avoids projectId stronger steps)
    (second : ∀ result, stronger result → Avoids projectId goal (next result)) :
    Avoids projectId goal (steps >>= next) := by
  induction steps with
  | done result => exact second result first
  | ask step rest ih => exact ⟨first.1, fun answer passed => ih answer (first.2 answer passed)⟩

theorem Avoids.pure {result : α} (reached : goal result) :
    Avoids projectId goal (pure result) := reached

theorem Avoids.step {step : Step} {next : step.Answer → Steps α}
    (avoids : step.avoids projectId = true)
    (rest : ∀ answer, step.PassesOver projectId answer → Avoids projectId goal (next answer)) :
    Avoids projectId goal (Dialogue.question step >>= next) :=
  ⟨avoids, rest⟩

theorem Avoids.map {change : α → β} (first : Avoids projectId goal steps) :
    Avoids projectId (fun _ => True) (change <$> steps) :=
  first.bind fun _ _ => .pure trivial

end Rules

section Procedures

variable {projectId brokerUrl leaver sessionId : String} {slot : SlotId} {request : Request}
  {payload : Payload}

theorem notify_avoids {report : Report}
    (harmless : report.projectId ≠ projectId ∨ report.status ≠ .running) :
    Avoids projectId (fun _ => True) (notify report) := by
  apply Avoids.step
  · simpa [Step.avoids] using harmless
  · exact fun _ _ => .pure trivial

theorem provision_avoids (other : request.projectId ≠ projectId) :
    Avoids projectId (fun _ => True) (provision brokerUrl slot request) := by
  have silent (status : WorkspaceStatus) (message : String) :
      Avoids projectId (fun _ => True) (notify (reportOn request status message)) :=
    notify_avoids (.inl other)
  have assigns : (Step.call (.assign slot (.ofRequest request brokerUrl))).avoids projectId = true :=
    bne_iff_ne.mpr other
  apply (silent _ _).bind
  intro _ _
  apply Avoids.step assigns
  intro outcome _
  cases outcome with
  | error reason => exact .step rfl fun _ _ => .pure trivial
  | ok done => exact (silent _ _).bind fun _ _ => .pure trivial

theorem serveNext_avoids : Avoids projectId (fun _ => True) (serveNext brokerUrl) := by
  apply Avoids.step rfl
  intro served passed
  cases served with
  | none => exact .pure trivial
  | some found =>
      have other : found.2.projectId ≠ projectId := passed
      apply (provision_avoids other).bind
      intro result _
      cases result with
      | ok done => exact .pure trivial
      | error reason => exact (notify_avoids (.inl other)).bind fun _ _ => .pure trivial

theorem serveAfter_avoids (freed : Option SlotId) :
    Avoids projectId (fun _ => True) (serveAfter brokerUrl freed) := by
  cases freed with
  | none => exact .pure trivial
  | some slot => exact serveNext_avoids

theorem tearDown_avoids : Avoids projectId (fun _ => True) (tearDown leaver) := by
  apply Avoids.step rfl
  intro holder _
  cases holder with
  | none => exact .pure trivial
  | some row =>
      apply Avoids.step rfl
      intro _ _
      apply Avoids.step rfl
      intro freed _
      cases freed with
      | ok slot => exact .pure trivial
      | error reason => exact .pure trivial

theorem confirmRunning_avoids (other : payload.projectId ≠ projectId) :
    Avoids projectId (fun _ => True) (confirmRunning slot payload) :=
  .step rfl fun _ _ => (notify_avoids (.inl other)).bind fun _ _ => .pure trivial

theorem fillToken_avoids :
    Avoids projectId (fun filled => filled.projectId = request.projectId) (fillToken request) := by
  unfold fillToken
  split
  · apply Avoids.step rfl
    intro answer _
    cases answer with
    | ok githubToken => exact .pure rfl
    | error reason => exact .pure rfl
  · exact .pure rfl

theorem place_avoids (other : leaver ≠ projectId) (attempts : Nat) :
    Avoids projectId (fun _ => True) (place leaver sessionId attempts) := by
  induction attempts with
  | zero => exact .pure trivial
  | succ attempts ih =>
      apply Avoids.step rfl
      intro shown _
      cases shown with
      | error reason => exact .pure trivial
      | ok slot =>
          have claims : (Step.usePool (.claim slot leaver sessionId)).avoids projectId = true :=
            bne_iff_ne.mpr other
          apply Avoids.step claims
          intro reply _
          cases reply with
          | ok done => exact .pure trivial
          | error reason =>
              cases reason with
              | notFound absence => exact ih
              | _ => exact .pure trivial

theorem enqueue_avoids (other : request.projectId ≠ projectId) :
    Avoids projectId (fun _ => True) (enqueue request) := by
  have enters : (Step.usePool (.enqueue request)).avoids projectId = true := bne_iff_ne.mpr other
  apply Avoids.step enters
  intro reply _
  cases reply with
  | ok position => exact (notify_avoids (.inl other)).bind fun _ _ => .pure trivial
  | error reason =>
      cases reason with
      | queueFull capacity => exact (notify_avoids (.inl other)).bind fun _ _ => .pure trivial
      | _ => exact .pure trivial

theorem create_avoids (other : payload.projectId ≠ projectId) :
    Avoids projectId (fun _ => True) (create brokerUrl payload) := by
  unfold create
  split
  · exact .pure trivial
  apply Avoids.step rfl
  intro holder _
  cases holder with
  | some row => exact (confirmRunning_avoids other).map
  | none =>
      apply Avoids.step rfl
      intro now _
      apply fillToken_avoids.bind
      intro request filled
      have otherRequest : request.projectId ≠ projectId := by
        rw [filled]
        exact other
      apply (place_avoids other placementAttempts).bind
      intro placed _
      cases placed with
      | ok placement =>
          cases placement with
          | held slot => exact (confirmRunning_avoids other).map
          | claimed slot =>
              apply Avoids.step rfl
              intro _ _
              apply (provision_avoids otherRequest).bind
              intro outcome _
              cases outcome with
              | ok done => exact .pure trivial
              | error reason => exact .pure trivial
      | error reason =>
          cases reason with
          | noSlotsAvailable => exact enqueue_avoids otherRequest
          | _ => exact .pure trivial

/-- What is left of giving up a slot tells the project at most that it is gone. -/
theorem serve_and_report_avoids {α : Type} {conclude : Served → α} {report : Report}
    (freed : Option SlotId) (gone : report.status ≠ .running) :
    Avoids projectId (fun _ => True) (do
      let served ← serveAfter brokerUrl freed
      notify report
      return conclude served) :=
  (serveAfter_avoids freed).bind fun _ _ =>
    (notify_avoids (.inr gone)).bind fun _ _ => .pure trivial

theorem release_avoids : Avoids projectId (fun _ => True) (release brokerUrl payload) := by
  apply tearDown_avoids.bind
  intro slot _
  cases slot with
  | none => exact .step rfl fun _ _ => serve_and_report_avoids none (by simp [reportTo])
  | some slot => exact serve_and_report_avoids (some slot) (by simp [reportTo])

theorem pause_avoids : Avoids projectId (fun _ => True) (pause brokerUrl payload) := by
  apply Avoids.step rfl
  intro holder _
  cases holder with
  | none => exact (notify_avoids (.inr (by simp [reportTo]))).bind fun _ _ => .pure trivial
  | some row =>
      apply (notify_avoids (.inr (by simp [reportTo]))).bind
      intro _ _
      apply Avoids.step rfl
      intro _ _
      apply tearDown_avoids.bind
      exact fun freed _ => serve_and_report_avoids freed (by simp [reportTo])

theorem pauseIdle_avoids (seen : Slot) : Avoids projectId (fun _ => True) (pauseIdle seen) := by
  apply Avoids.step rfl
  intro now _
  apply Avoids.step rfl
  intro paused _
  cases paused with
  | error reason => exact .pure trivial
  | ok done =>
      apply (notify_avoids (.inr (by simp [reportOf]))).bind
      intro _ _
      apply Avoids.step rfl
      intro _ _
      apply Avoids.step rfl
      intro freed _
      exact (notify_avoids (.inr (by simp [reportOf]))).bind fun _ _ => .pure trivial

theorem pauseEach_avoids (seen : List Slot) :
    Avoids projectId (fun _ => True) (pauseEach seen) := by
  induction seen with
  | nil => exact .pure trivial
  | cons slot rest ih =>
      exact (pauseIdle_avoids slot).bind fun _ _ => ih.bind fun _ _ => .pure trivial

theorem noteActivity_avoids : Avoids projectId (fun _ => True) (noteActivity leaver) := by
  apply Avoids.step rfl
  intro holder _
  cases holder with
  | none => exact .pure trivial
  | some row => exact .step rfl fun _ _ => .pure trivial

end Procedures

/-- The operation handles a request to create the project. -/
def Operation.Creates (projectId : String) (operation : Operation) : Prop :=
  ∃ event, operation = .handle event ∧ event.kind = .createRequested ∧
    event.payload.projectId = projectId

/-- Only its own create does not avoid a project. -/
theorem operation_avoids {projectId : String} (brokerUrl : String) {operation : Operation}
    (other : ¬ operation.Creates projectId) :
    Avoids projectId (fun _ => True) (operation.steps brokerUrl) := by
  cases operation with
  | handle event =>
      have handled : Avoids projectId (fun _ => True) (handle brokerUrl event) := by
        unfold handle
        cases kind : event.kind with
        | createRequested => exact create_avoids fun same => other ⟨event, rfl, kind, same⟩
        | releaseRequested => exact release_avoids.map
        | pauseRequested => exact pause_avoids.map
        | unknown => exact .pure trivial
      exact handled.bind fun _ _ => .pure trivial
  | pauseIdle idleTimeout =>
      have scanned : Avoids projectId (fun _ => True) (pauseIdleSlots idleTimeout) :=
        .step rfl fun seen _ => pauseEach_avoids seen
      exact scanned.bind fun _ _ => .pure trivial
  | serve => exact serveNext_avoids.bind fun _ _ => .pure trivial
  | noteActivity projectId => exact noteActivity_avoids.bind fun _ _ => .pure trivial

/-! ### Who does not wait is not let wait, and who is gone stays gone -/

section Steps

variable {pool : Pool} {now : Millis} {answers : (call : Call) → call.Answer} {step : Step}
  {answer : step.Answer} {projectId : String}

theorem passesOver_of_unqueued (sound : pool.Sound) (unqueued : ¬ pool.Waits projectId)
    (told : step.respond pool now answers = answer) : step.PassesOver projectId answer := by
  cases step with
  | readClock => trivial
  | call call => trivial
  | usePool op =>
      subst told
      cases op with
      | claimNext =>
          have effect : pool.Effect now .claimNext (pool.claimNext now).1 _ :=
            Pool.claimNext_effect sound
          change Step.PassesOver projectId (.usePool .claimNext) (pool.claimNext now).1
          cases served : (pool.claimNext now).1 with
          | none => trivial
          | some found =>
              rw [served] at effect
              have waited : pool.Waits found.2.projectId := effect.served_waited
              intro same
              exact unqueued (same ▸ waited)
      | _ => trivial

theorem unaccepted_of_avoids (avoids : step.avoids projectId = true) :
    Taken.accepted? ⟨pool, now, step, answer⟩ ≠ some projectId := by
  intro accepted
  obtain ⟨-, request, rfl, own⟩ := unbooked_of_accepted accepted
  simp [Step.avoids, own] at avoids

theorem unclaimed_of_avoids (avoids : step.avoids projectId = true)
    (passed : step.PassesOver projectId answer) (slot : SlotId) :
    Taken.booking? ⟨pool, now, step, answer⟩ ≠ some (.claim slot projectId) := by
  cases step with
  | readClock => simp [Taken.booking?]
  | call call => simp [Taken.booking?]
  | usePool op =>
      change op.booking? answer ≠ _
      cases op with
      | claim place claimant session =>
          have other : claimant ≠ projectId := by simpa [Step.avoids] using avoids
          cases answer <;> simp [PoolOp.booking?, other]
      | claimNext =>
          cases answer with
          | none => simp [PoolOp.booking?]
          | some found =>
              have other : found.2.projectId ≠ projectId := passed
              simp [PoolOp.booking?, other]
      | free leaver => cases answer <;> simp [PoolOp.booking?]
      | _ => simp [PoolOp.booking?]

theorem unqueued_of_leave (sound : pool.Sound) (told : step.respond pool now answers = answer)
    (avoids : step.avoids projectId = true) (unqueued : ¬ pool.Waits projectId) :
    ¬ (step.leave pool now).Waits projectId := by
  intro waits
  rcases waits_of_leave sound told waits with before | accepted
  · exact unqueued before
  · exact unaccepted_of_avoids avoids accepted

theorem absent_of_leave (sound : pool.Sound) (told : step.respond pool now answers = answer)
    (avoids : step.avoids projectId = true) (absent : pool.Absent projectId) :
    (step.leave pool now).Absent projectId := by
  have passed := passesOver_of_unqueued sound absent.unqueued told
  constructor
  · intro hosts
    rcases hosts_of_leave sound told hosts with before | ⟨slot, claimed⟩
    · exact absent.unheld before
    · exact unclaimed_of_avoids avoids passed slot claimed
  · exact unqueued_of_leave sound told avoids absent.unqueued

end Steps

/-- With no other caller in between, an operation that avoids a project lets it wait at the end only
if it waited in the beginning. -/
theorem Avoids.unqueued {α : Type} {projectId : String} {goal : α → Prop} {steps : Steps α}
    {scene : Scene} (avoids : Avoids projectId goal steps) (sound : scene.pool.Sound)
    (unqueued : ¬ scene.pool.Waits projectId) :
    Ensures (fun _ after => ¬ after.pool.Waits projectId) steps scene := by
  induction steps generalizing scene with
  | done result => exact unqueued
  | ask step next ih =>
      cases step with
      | readClock => exact fun now => ih now (avoids.2 now trivial) sound unqueued
      | call call => exact fun answer => ih answer (avoids.2 answer trivial) sound unqueued
      | usePool op =>
          intro now
          let quiet : (call : Call) → call.Answer := (Company.interfering 0 []).answer 0
          have told : (Step.usePool op).respond scene.pool now quiet =
            (scene.pool.perform now op).1 := rfl
          have passed := passesOver_of_unqueued sound unqueued told
          have left := unqueued_of_leave sound told avoids.1 unqueued
          exact ih _ (avoids.2 _ passed) (sound_leave sound now (.usePool op)) left

namespace Floor

/-- A floor on which no worker has anything to do. -/
def opened (pool : Pool) : Floor := { pool, workers := fun _ => .done (), log := [] }

/-- A project is gone from the floor, and no worker is about to bring it back. -/
structure RidOf (floor : Floor) (projectId : String) : Prop where
  sound : floor.pool.Sound
  absent : floor.pool.Absent projectId
  workers : ∀ worker, Avoids projectId (fun _ => True) (floor.workers worker)
  log : ∀ entry ∈ floor.log, entry.pool.Absent projectId ∧ entry.step.avoids projectId = true

variable {floor : Floor} {worker : Nat} {projectId brokerUrl : String}

theorem RidOf.start (rid : floor.RidOf projectId) {operation : Operation}
    (other : ¬ operation.Creates projectId) :
    RidOf { floor with
      workers := Function.update floor.workers worker (operation.steps brokerUrl) } projectId := by
  refine ⟨rid.sound, rid.absent, ?_, rid.log⟩
  intro any
  by_cases same : any = worker
  · subst same
    simpa using operation_avoids brokerUrl other
  · simpa [Function.update_of_ne same] using rid.workers any

theorem RidOf.advance (rid : floor.RidOf projectId) {now : Millis} {step : Step}
    {answers : (call : Call) → call.Answer} {next : step.Answer → Steps Unit}
    (busy : floor.workers worker = .ask step next) :
    (floor.advance worker now step (step.respond floor.pool now answers)
      (next (step.respond floor.pool now answers))).RidOf projectId := by
  have doing := rid.workers worker
  rw [busy] at doing
  have told : step.respond floor.pool now answers = _ := rfl
  have passed := passesOver_of_unqueued rid.sound rid.absent.unqueued told
  have absent := absent_of_leave rid.sound told doing.1 rid.absent
  refine ⟨sound_leave rid.sound now step, absent, ?_, ?_⟩
  · intro any
    by_cases same : worker = any
    · subst same
      rw [workers_advance]
      exact doing.2 _ passed
    · rw [workers_advance_of_ne same]
      exact rid.workers any
  · intro entry member
    rcases List.mem_append.mp member with before | new
    · exact rid.log entry before
    · rw [List.mem_singleton.mp new]
      exact ⟨rid.absent, doing.1⟩

theorem RidOf.run (rid : floor.RidOf projectId) (turns : List Turn)
    (others : ∀ worker operation, .start worker operation ∈ turns →
      ¬ operation.Creates projectId) : (floor.run brokerUrl turns).RidOf projectId := by
  apply Floor.run_keeps_among (fun floor => floor.RidOf projectId)
    (fun operation => ¬ operation.Creates projectId) _ _ turns others rid
  · exact fun floor worker operation other rid _ => rid.start other
  · exact fun floor worker now answers step next rid busy => rid.advance busy

end Floor

/-! ### Releases and pauses -/

section Given

variable {scene : Scene} {event : Event}

theorem run_release (around : Surroundings) (brokerUrl : String)
    (kind : event.kind = .releaseRequested) :
    (scene.run around (handle brokerUrl event)).2 =
      (scene.run around (release brokerUrl event.payload)).2 := by
  rw [handle, kind]
  exact Scene.run_map around scene _ _

theorem run_pause (around : Surroundings) (brokerUrl : String)
    (kind : event.kind = .pauseRequested) :
    (scene.run around (handle brokerUrl event)).2 =
      (scene.run around (pause brokerUrl event.payload)).2 := by
  rw [handle, kind]
  exact Scene.run_map around scene _ _

/-- Once an event is handled, what its project was told last fits where it is. -/
theorem fits_handled (informed : Informed scene.pool scene.told ∅) {around : Surroundings}
    {brokerUrl : String} {status : WorkspaceStatus}
    (told : (scene.run around (handle brokerUrl event)).2.told event.payload.projectId =
      some status) :
    Fits (scene.run around (handle brokerUrl event)).2.pool event.payload.projectId
      (some status) := by
  have rests : Rests (scene.run around (handle brokerUrl event)).2.pool _ ∅ :=
    (handle_informs informed event).run around
  have fits := rests.fits event.payload.projectId (Set.notMem_empty _)
  rwa [told] at fits

theorem release_absents (informed : Informed scene.pool scene.told ∅) (around : Surroundings)
    (brokerUrl : String) (kind : event.kind = .releaseRequested) :
    (scene.run around (handle brokerUrl event)).2.pool.Absent event.payload.projectId := by
  -- A release tells its project in the end that it is gone, and that fits only who is.
  have told : (scene.run around (handle brokerUrl event)).2.told event.payload.projectId =
      some .released := by
    rw [run_release around brokerUrl kind]
    exact (Ensures.run (release_tells event.payload) around).2
  have fits := fits_handled informed told
  constructor
  · intro held
    simpa using fits.held held
  · intro waits
    simpa using fits.waits waits

theorem pause_unheld (informed : Informed scene.pool scene.told ∅) (around : Surroundings)
    (brokerUrl : String) (kind : event.kind = .pauseRequested) :
    ¬ (scene.run around (handle brokerUrl event)).2.pool.Hosts event.payload.projectId := by
  have told : (scene.run around (handle brokerUrl event)).2.told event.payload.projectId =
      some .paused := by
    rw [run_pause around brokerUrl kind]
    exact (Ensures.run (pause_tells event.payload) around).2
  intro held
  simpa using (fits_handled informed told).held held

/-- Nothing is done about a project that holds no slot but to report it paused. -/
theorem pause_of_unheld {payload : Payload} {brokerUrl : String}
    (unheld : scene.pool.holder? payload.projectId = none) :
    Ensures (fun _ after => after.pool = scene.pool) (pause brokerUrl payload) scene := by
  unfold pause
  refine .use fun now => ?_
  simp only [Pool.perform, unheld]
  exact (notify_tells _).seq fun _ _ told => .pure told.1

end Given

/-- After any operations on a new pool, each run to its end, handling a release leaves its project
without a slot and out of the queue. Handling a pause leaves its project without a slot; a project
that did not wait does not wait then either, and for one that waited nothing is done. Once a project
is gone, it holds no slot and does not wait, is not set up and is not reported to run, however the
steps of several workers fall between each other, as long as none of them starts to create it. -/
theorem given_up_projects_stay_away (slotCount : UInt32) (capacity : Nat) (start : Millis)
    (brokerUrl : String) (around : Surroundings) (operations : List Operation) (event : Event)
    (turns : List Turn) :
    let projectId := event.payload.projectId
    let before := (Scene.fresh slotCount capacity start).runAll around brokerUrl operations
    let pool := (before.run around (handle brokerUrl event)).2.pool
    let floor := (Floor.opened pool).run brokerUrl turns
    (event.kind = .releaseRequested → pool.Absent projectId) ∧
    (event.kind = .pauseRequested → ¬ pool.Hosts projectId ∧
      (¬ before.pool.Waits projectId → ¬ pool.Waits projectId) ∧
      (before.pool.Waits projectId → pool = before.pool)) ∧
    (pool.Absent projectId →
      (∀ worker operation, .start worker operation ∈ turns → ¬ operation.Creates projectId) →
      floor.pool.Absent projectId ∧ ∀ entry ∈ floor.log, entry.pool.Absent projectId ∧
        (∀ slot assignment, entry.step = .call (.assign slot assignment) →
          assignment.projectId ≠ projectId) ∧
        (∀ report, entry.step = .call (.publish report) → report.status = .running →
          report.projectId ≠ projectId)) := by
  intro projectId before pool floor
  have rests : Rests before.pool before.told ∅ :=
    Scene.runAll_keeps (fun operation _ rests => operation_informs operation rests) around
      (fresh_rests slotCount capacity start) operations
  refine ⟨release_absents rests.toInformed around brokerUrl, ?_, ?_⟩
  · intro kind
    have ended : pool = (before.run around (pause brokerUrl event.payload)).2.pool :=
      congrArg Scene.pool (run_pause around brokerUrl kind)
    refine ⟨pause_unheld rests.toInformed around brokerUrl kind, ?_, ?_⟩
    · intro unqueued
      rw [ended]
      exact (pause_avoids.unqueued rests.sound unqueued).run around
    · intro waits
      have unheld : before.pool.holder? projectId = none :=
        rests.sound.holder?_eq_none_iff_not_hosts.mpr fun held => rests.apart projectId held waits
      rw [ended]
      exact (pause_of_unheld unheld).run around
  · intro absent others
    have sound : pool.Sound := ((handle_informs rests.toInformed event).run around).sound
    have opened : (Floor.opened pool).RidOf projectId :=
      ⟨sound, absent, fun _ => trivial, by simp [Floor.opened]⟩
    have rid : floor.RidOf projectId := opened.run turns others
    refine ⟨rid.absent, ?_⟩
    intro entry member
    obtain ⟨gone, avoids⟩ := rid.log entry member
    refine ⟨gone, ?_, ?_⟩
    · intro slot assignment assigns
      simpa [assigns, Step.avoids] using avoids
    · intro report publishes running
      simpa [publishes, running, Step.avoids] using avoids

/-- A project that waits is paused and keeps its place. When the slot is released it runs again,
though nobody has asked for it. -/
theorem paused_project_can_run_again :
    let around : Surroundings := .still 0 fun _ => fun
      | .publish _ | .assign _ _ | .release _ _ => .ok ()
      | .lookUpToken _ => .ok ""
    let event (kind : EventKind) (projectId : String) : Operation := .handle {
      kind, timestamp := default,
      payload := { Payload.blank with projectId, sessionId := "session" } }
    let paused := (Scene.fresh 1 2 0).runAll around "" [event .createRequested "first",
      event .createRequested "second", event .pauseRequested "second"]
    let released := paused.runAll around "" [event .releaseRequested "first"]
    paused.told "second" = some .paused ∧
      (∃ request ∈ paused.pool.waiting, request.projectId = "second") ∧
      (∃ slot ∈ released.pool.slots, slot.holds "second" = true) ∧
      released.told "second" = some .running := by
  decide +kernel

end WorkspacePool.Workflow
