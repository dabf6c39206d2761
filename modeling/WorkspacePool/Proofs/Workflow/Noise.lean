import WorkspacePool.Proofs.Pool.Tokens
import WorkspacePool.Proofs.Workflow.Run

/-!
Two runs of the same operations, side by side. Reports may be published or lost, slots may be torn
down or not, and a user may have any token or none: as long as the assignments succeed and fail
alike, both runs take the same steps but for tokens, and come to the same.
-/

namespace WorkspacePool

/-- An assignment but for its token. -/
def Assignment.tokenless (assignment : Assignment) : Assignment :=
  { assignment with githubToken := "" }

namespace Workflow

namespace Call

/-- A call but for the token it hands on. -/
def tokenless : Call → Call
  | .assign slot assignment => .assign slot assignment.tokenless
  | call => call

/-- A call whose answer allocation is not to depend on. -/
def isNoise : Call → Bool
  | .assign _ _ => false
  | _ => true

end Call

/-- Two steps that differ in tokens at most, and how their answers are to agree. -/
inductive Step.Twins : (left right : Step) → (left.Answer → right.Answer → Prop) → Prop where
  | readClock : Twins .readClock .readClock (· = ·)
  | usePool {op other : PoolOp} {agree : op.Reply → other.Reply → Prop}
      (twins : PoolOp.Twins op other agree) : Twins (.usePool op) (.usePool other) agree
  | assign {slot : SlotId} {left right : Assignment} (same : left.tokenless = right.tokenless) :
      Twins (.call (.assign slot left)) (.call (.assign slot right)) (· = ·)
  | noise {call : Call} (noise : call.isNoise = true) :
      Twins (.call call) (.call call) fun _ _ => True

/-- Given answers that agree, two operations take steps that differ in tokens at most, and their
results are as they should be. -/
def Parallel {α : Type} (goal : α → α → Prop) : Steps α → Steps α → Prop
  | .done left, .done right => goal left right
  | .ask step next, .ask other following =>
      ∃ agree, Step.Twins step other agree ∧
        ∀ answer reply, agree answer reply → Parallel goal (next answer) (following reply)
  | _, _ => False

section Rules

variable {α β : Type} {goal : α → α → Prop} {aim : β → β → Prop} {left right : Steps α}

theorem Parallel.pure {result other : α} (reached : goal result other) :
    Parallel goal (pure result) (pure other) := reached

theorem Parallel.bind {next following : α → Steps β} (first : Parallel goal left right)
    (rest : ∀ result other, goal result other → Parallel aim (next result) (following other)) :
    Parallel aim (left >>= next) (right >>= following) := by
  induction left generalizing right with
  | done result =>
      cases right with
      | done other => exact rest result other first
      | ask => exact first.elim
  | ask step continuation ih =>
      cases right with
      | done => exact first.elim
      | ask =>
          obtain ⟨agree, twins, onwards⟩ := first
          exact ⟨agree, twins, fun answer reply same => ih answer (onwards answer reply same)⟩

/-- Where results are equal, the rest follows for each of them. -/
theorem Parallel.seq {next following : α → Steps β} (first : Parallel (· = ·) left right)
    (rest : ∀ result, Parallel aim (next result) (following result)) :
    Parallel aim (left >>= next) (right >>= following) := by
  apply first.bind
  intro result other same
  cases same
  exact rest result

theorem Parallel.map {change : α → β} (first : Parallel (· = ·) left right) :
    Parallel (· = ·) (change <$> left) (change <$> right) :=
  first.seq fun _ => .pure rfl

theorem Parallel.look {next following : Millis → Steps α}
    (rest : ∀ now, Parallel goal (next now) (following now)) :
    Parallel goal (Steps.now >>= next) (Steps.now >>= following) := by
  refine ⟨_, .readClock, ?_⟩
  intro now other same
  cases same
  exact rest now

theorem Parallel.use {op : PoolOp} (onSlots : op.onSlots = true) {next following : op.Reply → Steps α}
    (rest : ∀ reply, Parallel goal (next reply) (following reply)) :
    Parallel goal (Steps.usePool op >>= next) (Steps.usePool op >>= following) := by
  refine ⟨_, .usePool (.onSlots onSlots), ?_⟩
  intro reply other same
  cases same
  exact rest reply

theorem Parallel.noise {call : Call} (noise : call.isNoise = true)
    {next following : call.Answer → Steps α}
    (rest : ∀ answer other, Parallel goal (next answer) (following other)) :
    Parallel goal (Steps.call call >>= next) (Steps.call call >>= following) :=
  ⟨_, .noise noise, fun answer other _ => rest answer other⟩

theorem Parallel.withdraw {projectId : String} {steps others : Steps α}
    (rest : Parallel goal steps others) :
    Parallel goal (do let _ ← Steps.usePool (.withdraw projectId); steps)
      (do let _ ← Steps.usePool (.withdraw projectId); others) :=
  ⟨_, .usePool (.withdraw projectId), fun _ _ _ => rest⟩

end Rules

/-! ### Procedures -/

section Procedures

variable {brokerUrl : String} {slot : SlotId} {request : Request} {payload : Payload}
  {projectId : String}

theorem notify_parallel {report : Report} : Parallel (· = ·) (notify report) (notify report) :=
  .noise rfl fun _ _ => .pure rfl

theorem provision_parallel (githubToken : String) :
    Parallel (· = ·) (provision brokerUrl slot request)
      (provision brokerUrl slot { request with githubToken }) := by
  unfold provision
  apply notify_parallel.seq
  intro _
  refine ⟨_, .assign rfl, ?_⟩
  intro answer other same
  cases same
  cases answer with
  | error reason => exact .use rfl fun _ => .pure rfl
  | ok done => exact notify_parallel.seq fun _ => .pure rfl

theorem serveNext_parallel : Parallel (· = ·) (serveNext brokerUrl) (serveNext brokerUrl) := by
  refine ⟨_, .usePool .claimNext, ?_⟩
  intro reply other agree
  cases reply with
  | none =>
      cases other with
      | none => exact .pure rfl
      | some served => cases agree
  | some served =>
      cases other with
      | none => cases agree
      | some given =>
          -- The same slot is handed out, to requests that differ in their tokens at most.
          obtain ⟨slot, request⟩ := served
          obtain ⟨slot', other⟩ := given
          obtain ⟨sameSlot, sameRequest⟩ := Prod.mk.inj (Option.some.inj agree)
          cases sameSlot
          obtain ⟨githubToken, rfl⟩ := Request.tokenless_eq_iff.mp sameRequest
          apply (provision_parallel githubToken).seq
          intro result
          cases result with
          | ok => exact .pure rfl
          | error reason => exact notify_parallel.seq fun _ => .pure rfl

theorem serveAfter_parallel (freed : Option SlotId) :
    Parallel (· = ·) (serveAfter brokerUrl freed) (serveAfter brokerUrl freed) := by
  cases freed with
  | none => exact .pure rfl
  | some slot => exact serveNext_parallel

theorem confirmRunning_parallel :
    Parallel (· = ·) (confirmRunning slot payload) (confirmRunning slot payload) :=
  .use rfl fun _ => notify_parallel.seq fun _ => .pure rfl

theorem fillToken_parallel :
    Parallel (fun left right => left.tokenless = right.tokenless) (fillToken request)
      (fillToken request) := by
  unfold fillToken
  split
  · apply Parallel.noise rfl
    intro answer other
    cases answer <;> cases other <;> exact .pure rfl
  · exact .pure rfl

theorem place_parallel {sessionId : String} (attempts : Nat) :
    Parallel (· = ·) (place projectId sessionId attempts) (place projectId sessionId attempts) := by
  induction attempts with
  | zero => exact .pure rfl
  | succ attempts ih =>
      apply Parallel.use rfl
      intro found
      cases found with
      | error reason => exact .pure rfl
      | ok slot =>
          apply Parallel.use rfl
          intro claimed
          cases claimed with
          | ok => exact .pure rfl
          | error reason =>
              cases reason with
              | notFound absence => exact ih
              | _ => exact .pure rfl

theorem enqueue_parallel (githubToken : String) :
    Parallel (· = ·) (enqueue request) (enqueue { request with githubToken }) := by
  refine ⟨_, .usePool (.enqueue rfl), ?_⟩
  intro reply other same
  cases same
  cases reply with
  | ok place => exact notify_parallel.seq fun _ => .pure rfl
  | error reason =>
      cases reason with
      | queueFull capacity => exact notify_parallel.seq fun _ => .pure rfl
      | _ => exact .pure rfl

theorem create_parallel :
    Parallel (· = ·) (create brokerUrl payload) (create brokerUrl payload) := by
  unfold create
  split
  · exact .pure rfl
  · apply Parallel.use rfl
    intro holder
    cases holder with
    | some slot => exact confirmRunning_parallel.map
    | none =>
        apply Parallel.look
        intro now
        -- From here on the requests may differ in the tokens that were filled in.
        apply fillToken_parallel.bind
        intro request other same
        obtain ⟨githubToken, rfl⟩ := Request.tokenless_eq_iff.mp same
        apply (place_parallel placementAttempts).seq
        intro placed
        cases placed with
        | ok placement =>
            cases placement with
            | held slot => exact confirmRunning_parallel.map
            | claimed slot =>
                apply Parallel.withdraw
                apply (provision_parallel githubToken).seq
                intro result
                cases result <;> exact .pure rfl
        | error reason =>
            cases reason with
            | noSlotsAvailable => exact enqueue_parallel githubToken
            | _ => exact .pure rfl

theorem tearDown_parallel : Parallel (· = ·) (tearDown projectId) (tearDown projectId) := by
  apply Parallel.use rfl
  intro holder
  cases holder with
  | none => exact .pure rfl
  | some slot =>
      apply Parallel.noise rfl
      intro _ _
      apply Parallel.use rfl
      intro freed
      cases freed <;> exact .pure rfl

theorem serve_and_report_parallel {α : Type} {conclude : Served → α} {report : Report}
    (freed : Option SlotId) :
    Parallel (· = ·)
      (do let served ← serveAfter brokerUrl freed; notify report; return conclude served)
      (do let served ← serveAfter brokerUrl freed; notify report; return conclude served) :=
  (serveAfter_parallel freed).seq fun _ => notify_parallel.seq fun _ => .pure rfl

theorem release_parallel :
    Parallel (· = ·) (release brokerUrl payload) (release brokerUrl payload) := by
  unfold release
  apply tearDown_parallel.seq
  intro freed
  cases freed with
  | none => exact .withdraw (serve_and_report_parallel none)
  | some slot => exact serve_and_report_parallel (some slot)

theorem pause_parallel :
    Parallel (· = ·) (pause brokerUrl payload) (pause brokerUrl payload) := by
  apply Parallel.use rfl
  intro holder
  cases holder with
  | none => exact notify_parallel.seq fun _ => .pure rfl
  | some slot =>
      apply notify_parallel.seq
      intro _
      apply Parallel.use rfl
      intro _
      exact tearDown_parallel.seq fun freed => serve_and_report_parallel freed

theorem handle_parallel (event : Event) :
    Parallel (· = ·) (handle brokerUrl event) (handle brokerUrl event) := by
  unfold handle
  split
  · exact create_parallel
  · exact release_parallel.map
  · exact pause_parallel.map
  · exact .pure rfl

theorem noteActivity_parallel :
    Parallel (· = ·) (noteActivity projectId) (noteActivity projectId) := by
  apply Parallel.use rfl
  intro holder
  cases holder with
  | none => exact .pure rfl
  | some slot => exact .use rfl fun _ => .pure rfl

theorem pauseIdle_parallel (row : Slot) : Parallel (· = ·) (pauseIdle row) (pauseIdle row) := by
  apply Parallel.look
  intro now
  apply Parallel.use rfl
  intro paused
  cases paused with
  | error reason => exact .pure rfl
  | ok done =>
      apply notify_parallel.seq
      intro _
      apply Parallel.noise rfl
      intro _ _
      apply Parallel.use rfl
      intro freed
      exact notify_parallel.seq fun _ => .pure rfl

theorem pauseEach_parallel (rows : List Slot) :
    Parallel (· = ·) (pauseEach rows) (pauseEach rows) := by
  induction rows with
  | nil => exact .pure rfl
  | cons row rest ih => exact (pauseIdle_parallel row).seq fun _ => ih.seq fun _ => .pure rfl

theorem pauseIdleSlots_parallel (idleTimeout : Span) :
    Parallel (· = ·) (pauseIdleSlots idleTimeout) (pauseIdleSlots idleTimeout) :=
  .use rfl pauseEach_parallel

end Procedures

/-! ### What operations come to -/

/-- What an operation answers to whoever asked for it. -/
inductive Outcome where
  | handled (result : Except WorkflowError Consequence)
  | paused (freed : List SlotId)
  | served (served : Served)
  | noted (held : Bool)
deriving Repr

/-- An operation with its outcome. -/
def Operation.perform (brokerUrl : String) : Operation → Steps Outcome
  | .handle event => .handled <$> Workflow.handle brokerUrl event
  | .pauseIdle idleTimeout => .paused <$> pauseIdleSlots idleTimeout
  | .serve => .served <$> serveQueue brokerUrl
  | .noteActivity projectId => .noted <$> Workflow.noteActivity projectId

theorem operation_parallel (brokerUrl : String) (operation : Operation) :
    Parallel (· = ·) (operation.perform brokerUrl) (operation.perform brokerUrl) := by
  cases operation with
  | handle event => exact (handle_parallel event).map
  | pauseIdle idleTimeout => exact (pauseIdleSlots_parallel idleTimeout).map
  | serve => exact serveNext_parallel.map
  | noteActivity projectId => exact noteActivity_parallel.map

theorem Scene.run_perform (scene : Scene) (around : Surroundings) (brokerUrl : String)
    (operation : Operation) :
    (scene.run around (operation.perform brokerUrl)).2 =
      (scene.run around (operation.steps brokerUrl)).2 := by
  cases operation <;> exact (Scene.run_map ..).trans (Scene.run_map ..).symm

/-! ### Two runs -/

/-- What the provisioner answered, if it was an assignment that it was asked for. -/
def Exchange.verdict? : Exchange → Option (Except ProvisionError Unit)
  | ⟨.assign _ _, answer⟩ => some answer
  | _ => none

/-- Whether two assignments went alike can be decided. -/
instance decidableEqVerdict : DecidableEq (Except ProvisionError Unit)
  | .ok _, .ok _ => isTrue rfl
  | .ok _, .error _ => isFalse (by simp)
  | .error _, .ok _ => isFalse (by simp)
  | .error reason, .error other => decidable_of_iff (reason = other) (by simp)

namespace Scene

/-- How the assignments went, in their order. -/
def verdicts (scene : Scene) : List (Except ProvisionError Unit) :=
  scene.exchanges.filterMap (·.verdict?)

/-- As far as both scenes have an assignment of the same number, the two went alike. -/
def Accord (left right : Scene) : Prop :=
  ∀ (number : Nat) (verdict other : Except ProvisionError Unit),
    left.verdicts[number]? = some verdict → right.verdicts[number]? = some other → verdict = other

/-- What the operations come to, one after the other. -/
def outcomes (around : Surroundings) (brokerUrl : String) (scene : Scene) :
    List Operation → List Outcome
  | [] => []
  | operation :: later =>
      (scene.run around (operation.perform brokerUrl)).1 ::
        (scene.run around (operation.steps brokerUrl)).2.outcomes around brokerUrl later

/-- Two scenes that differ in tokens only, and in what was answered to calls but assignments. -/
structure Alike (left right : Scene) : Prop where
  pool : left.pool.tokenless = right.pool.tokenless
  calls : left.exchanges.map (·.call.tokenless) = right.exchanges.map (·.call.tokenless)
  verdicts : left.verdicts = right.verdicts
  moment : left.moment = right.moment

end Scene

section Runs

variable {α : Type} {goal : α → α → Prop} {left right earlier previous : Scene}
  {around first second : Surroundings} {brokerUrl : String}

theorem verdicts_afterCall (scene : Scene) (exchange : Exchange) :
    (scene.afterCall exchange).verdicts = scene.verdicts ++ exchange.verdict?.toList := by
  simp only [Scene.verdicts, Scene.afterCall, List.filterMap_append, List.filterMap_cons,
    List.filterMap_nil]
  cases exchange.verdict? <;> rfl

/-- A run leaves the calls that were made before it on record. -/
theorem verdicts_prefix_run (scene : Scene) (steps : Steps α) :
    scene.verdicts <+: (scene.run around steps).2.verdicts := by
  induction steps generalizing scene with
  | done result => exact List.prefix_rfl
  | ask step next ih =>
      cases step with
      | readClock => exact ih _ scene.afterReading
      | usePool op => exact ih _ (scene.afterUse _ op)
      | call call =>
          have recorded := verdicts_afterCall scene ⟨call, around.answer scene.moment call⟩
          exact .trans ⟨_, recorded.symm⟩ (ih _ (scene.afterCall _))

theorem verdicts_prefix_runAll (scene : Scene) (operations : List Operation) :
    scene.verdicts <+: (scene.runAll around brokerUrl operations).verdicts := by
  induction operations generalizing scene with
  | nil => exact List.prefix_rfl
  | cons operation later ih => exact (verdicts_prefix_run scene _).trans (ih _)

theorem Scene.Accord.before (accord : Scene.Accord left right)
    (atFirst : earlier.verdicts <+: left.verdicts)
    (atSecond : previous.verdicts <+: right.verdicts) : Scene.Accord earlier previous := by
  intro number verdict other found given
  obtain ⟨later, longer⟩ := atFirst
  obtain ⟨rest, further⟩ := atSecond
  apply accord number verdict other
  · rwa [← longer, List.getElem?_append_left (List.getElem?_eq_some_iff.mp found).1]
  · rwa [← further, List.getElem?_append_left (List.getElem?_eq_some_iff.mp given).1]

namespace Scene.Alike

/-- The next assignment is answered alike, if that keeps the scenes in accord. -/
theorem same_verdict (alike : Alike left right) {slot other : SlotId}
    {assignment given : Assignment} {answer reply : Except ProvisionError Unit}
    (accord : Accord (left.afterCall ⟨.assign slot assignment, answer⟩)
      (right.afterCall ⟨.assign other given, reply⟩)) : answer = reply := by
  apply accord left.verdicts.length answer reply
  · simp [verdicts_afterCall, Exchange.verdict?]
  · simp [verdicts_afterCall, Exchange.verdict?, alike.verdicts]

theorem afterReading (alike : Alike left right) : Alike left.afterReading right.afterReading :=
  { alike with moment := congrArg (· + 1) alike.moment }

theorem afterUse (alike : Alike left right) {op other : PoolOp}
    {agree : op.Reply → other.Reply → Prop} (twins : PoolOp.Twins op other agree) (now : Millis) :
    Alike (left.afterUse now op) (right.afterUse now other) :=
  { alike with
    pool := (Pool.perform_twins twins alike.pool now).2
    moment := congrArg (· + 1) alike.moment }

theorem afterCall (alike : Alike left right) {exchange other : Exchange}
    (sameCall : exchange.call.tokenless = other.call.tokenless)
    (sameVerdict : exchange.verdict? = other.verdict?) :
    Alike (left.afterCall exchange) (right.afterCall other) where
  pool := alike.pool
  calls := by simp only [Scene.afterCall, List.map_append, alike.calls, List.map_cons, sameCall,
    List.map_nil]
  verdicts := by rw [verdicts_afterCall, verdicts_afterCall, alike.verdicts, sameVerdict]
  moment := congrArg (· + 1) alike.moment

theorem afterAssign (alike : Alike left right) {slot : SlotId} {assignment given : Assignment}
    (same : assignment.tokenless = given.tokenless) {answer reply : Except ProvisionError Unit}
    (answered : answer = reply) :
    Alike (left.afterCall ⟨.assign slot assignment, answer⟩)
      (right.afterCall ⟨.assign slot given, reply⟩) :=
  alike.afterCall (congrArg (Call.assign slot) same) (congrArg some answered)

theorem afterNoise (alike : Alike left right) {call : Call} (noise : call.isNoise = true)
    (answer reply : call.Answer) :
    Alike (left.afterCall ⟨call, answer⟩) (right.afterCall ⟨call, reply⟩) := by
  have unanswered : Exchange.verdict? ⟨call, answer⟩ = Exchange.verdict? ⟨call, reply⟩ := by
    cases call with
    | assign slot assignment => contradiction
    | _ => rfl
  exact alike.afterCall rfl unanswered

end Scene.Alike

/-- Run in parallel from scenes that are alike, two operations end alike. -/
theorem Parallel.run {steps others : Steps α} (parallel : Parallel goal steps others)
    (alike : Scene.Alike left right) (sameTime : first.reading = second.reading)
    (accord : Scene.Accord (left.run first steps).2 (right.run second others).2) :
    goal (left.run first steps).1 (right.run second others).1 ∧
      Scene.Alike (left.run first steps).2 (right.run second others).2 := by
  induction steps generalizing left right others with
  | done result =>
      cases others with
      | done other => exact ⟨parallel, alike⟩
      | ask => exact parallel.elim
  | ask step next ih =>
      cases others with
      | done => exact parallel.elim
      | ask other following =>
          have now : first.reading left.moment = second.reading right.moment := by
            rw [sameTime, alike.moment]
          obtain ⟨agree, twins, rest⟩ := parallel
          cases twins with
          | readClock =>
              simp only [Scene.run] at accord ⊢
              exact ih _ (rest _ _ now) alike.afterReading accord
          | usePool twins =>
              simp only [Scene.run, now] at accord ⊢
              have replies :=
                (Pool.perform_twins twins alike.pool (second.reading right.moment)).1
              exact ih _ (rest _ _ replies) (alike.afterUse twins _) accord
          | assign same =>
              simp only [Scene.run] at accord ⊢
              -- The answers are on record at the end, where the runs are in accord.
              have answered := alike.same_verdict
                (accord.before (verdicts_prefix_run _ _) (verdicts_prefix_run _ _))
              exact ih _ (rest _ _ answered) (alike.afterAssign same answered) accord
          | noise noise =>
              simp only [Scene.run] at accord ⊢
              exact ih _ (rest _ _ trivial) (alike.afterNoise noise _ _) accord

/-- Operations that are run in parallel come to the same, each of them. -/
theorem runAll_parallel (alike : Scene.Alike left right) (sameTime : first.reading = second.reading)
    (operations : List Operation)
    (accord : Scene.Accord (left.runAll first brokerUrl operations)
      (right.runAll second brokerUrl operations)) :
    left.outcomes first brokerUrl operations = right.outcomes second brokerUrl operations ∧
      Scene.Alike (left.runAll first brokerUrl operations)
        (right.runAll second brokerUrl operations) := by
  induction operations generalizing left right with
  | nil => exact ⟨rfl, alike⟩
  | cons operation later ih =>
      have here := accord.before (verdicts_prefix_runAll _ later) (verdicts_prefix_runAll _ later)
      rw [← Scene.run_perform, ← Scene.run_perform] at here
      obtain ⟨outcome, after⟩ := (operation_parallel brokerUrl operation).run alike sameTime here
      rw [Scene.run_perform, Scene.run_perform] at after
      obtain ⟨outcomes, finish⟩ := ih after accord
      exact ⟨congrArg₂ List.cons outcome outcomes, finish⟩

/-- Between either surroundings the operations come to the same but for tokens: each of them has the
same outcome, the pools and the queues end the same, and the same calls were made in the same
order. -/
structure SameCourse (scene : Scene) (brokerUrl : String) (operations : List Operation)
    (first second : Surroundings) : Prop where
  outcomes : scene.outcomes first brokerUrl operations = scene.outcomes second brokerUrl operations
  slots : (scene.runAll first brokerUrl operations).pool.slots =
    (scene.runAll second brokerUrl operations).pool.slots
  waiting : (scene.runAll first brokerUrl operations).pool.waiting.map Request.tokenless =
    (scene.runAll second brokerUrl operations).pool.waiting.map Request.tokenless
  calls : (scene.runAll first brokerUrl operations).exchanges.map (·.call.tokenless) =
    (scene.runAll second brokerUrl operations).exchanges.map (·.call.tokenless)

/-- Reports that are published or lost, slots that are torn down or not, and tokens that are found
or not do not steer allocation. -/
theorem noise_does_not_steer (scene : Scene) (brokerUrl : String) (operations : List Operation)
    (first second : Surroundings) (sameTime : first.reading = second.reading)
    (accord : Scene.Accord (scene.runAll first brokerUrl operations)
      (scene.runAll second brokerUrl operations)) :
    SameCourse scene brokerUrl operations first second := by
  have start : Scene.Alike scene scene := ⟨rfl, rfl, rfl, rfl⟩
  obtain ⟨outcomes, alike⟩ := runAll_parallel start sameTime operations accord
  obtain ⟨slots, waiting, -⟩ := Pool.mk.inj alike.pool
  exact ⟨outcomes, slots, waiting, alike.calls⟩

/-- In one run all goes well; in the other nothing is published, no slot is torn down and nobody
has a token. In neither can the second project be set up. All that differs are the tokens that the
provisioner is handed. -/
theorem failures_do_not_steer :
    let quiet : Surroundings := {
      reading := fun _ => 0
      answer := fun _ => fun
        | .publish _ | .release _ _ => .ok ()
        | .assign _ given => if given.projectId == "second" then .error (.api "down") else .ok ()
        | .lookUpToken _ => .ok "token" }
    let noisy : Surroundings := {
      reading := fun _ => 0
      answer := fun _ => fun
        | .publish _ => .error .notConfirmed
        | .release _ _ => .error (.api "busy")
        | .assign _ given => if given.projectId == "second" then .error (.api "down") else .ok ()
        | .lookUpToken _ => .error .notConfigured }
    let event (kind : EventKind) (projectId : String) : Operation := .handle {
      kind, timestamp := default,
      payload := { Payload.blank with projectId, userId := "user", sessionId := "session" } }
    let operations := [event .createRequested "first", event .createRequested "second",
      event .createRequested "third", event .releaseRequested "first", .serve,
      .noteActivity "third", event .pauseRequested "third"]
    let scene := Scene.fresh 1 2 0
    (scene.runAll quiet "" operations).exchanges.map (·.call) ≠
        (scene.runAll noisy "" operations).exchanges.map (·.call) ∧
      SameCourse scene "" operations quiet noisy := by
  intro quiet noisy event operations scene
  have same : (scene.runAll quiet "" operations).verdicts =
      (scene.runAll noisy "" operations).verdicts := by decide +kernel
  refine ⟨by decide +kernel, noise_does_not_steer scene "" operations quiet noisy rfl ?_⟩
  intro number verdict other found given
  rw [same] at found
  exact Option.some.inj (found.symm.trans given)

end Runs

end Workflow

end WorkspacePool
