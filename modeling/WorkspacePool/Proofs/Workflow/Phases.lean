import WorkspacePool.Proofs.Workflow.Run

/-!
Phases of operations. On its way to place a project an operation first finds that the project holds
no slot, then claims one for it or lets its request wait, and withdraws its request at once when it
got a slot. `Keeps` says that an operation keeps to this order whatever it is answered, and every
operation does (`operation_keeps`).
-/

namespace WorkspacePool.Workflow

/-- How far an operation is with placing a project. -/
inductive Phase where
  | free
  /-- The project was found to hold no slot. -/
  | seeking (projectId : String)
  /-- A slot was claimed for the project. -/
  | placed (projectId : String)
deriving DecidableEq

/-- A step by which no project of the operation's choice gets a slot or is let wait. -/
def Step.isModest : Step → Bool
  | .usePool (.claim _ _ _) | .usePool (.enqueue _) => false
  | _ => true

/-- A step that leaves the pool as it is and asks for no holder. -/
def Step.isLook : Step → Bool
  | .readClock | .call _ | .usePool .findFree => true
  | _ => false

namespace Phase

def isPlaced : Phase → Bool
  | .placed _ => true
  | _ => false

/-- The steps that an operation may take in a phase, and the phase that an answer leads to. -/
inductive Allows : Phase → (step : Step) → step.Answer → Phase → Prop where
  | modest (phase : Phase) (step : Step) (answer : step.Answer) (unplaced : phase.isPlaced = false)
      (modest : step.isModest = true) : Allows phase step answer .free
  | missed (phase : Phase) (projectId : String) (unplaced : phase.isPlaced = false) :
      Allows phase (.usePool (.holder projectId)) none (.seeking projectId)
  | looked (projectId : String) (step : Step) (answer : step.Answer) (look : step.isLook = true) :
      Allows (.seeking projectId) step answer (.seeking projectId)
  | refused (slot : SlotId) (projectId sessionId : String) (reason : PoolError) :
      Allows (.seeking projectId) (.usePool (.claim slot projectId sessionId)) (.error reason)
        (.seeking projectId)
  | claimed (slot : SlotId) (projectId sessionId : String) :
      Allows (.seeking projectId) (.usePool (.claim slot projectId sessionId)) (.ok ())
        (.placed projectId)
  | enqueued (request : Request) (reply : (PoolOp.enqueue request).Reply) :
      Allows (.seeking request.projectId) (.usePool (.enqueue request)) reply .free
  | withdrawn (projectId : String) (reply : (PoolOp.withdraw projectId).Reply) :
      Allows (.placed projectId) (.usePool (.withdraw projectId)) reply .free

end Phase

/-- Whatever an operation is answered, it keeps to the phases and ends as it should. -/
def Keeps {α : Type} (goal : α → Phase → Prop) : Steps α → Phase → Prop
  | .done result, phase => goal result phase
  | .ask step next, phase =>
      ∀ answer, ∃ after, phase.Allows step answer after ∧ Keeps goal (next answer) after

section Rules

variable {α β : Type} {goal stronger : α → Phase → Prop} {phase : Phase} {steps : Steps α}

theorem Keeps.mono (keeps : Keeps stronger steps phase)
    (weaken : ∀ result after, stronger result after → goal result after) :
    Keeps goal steps phase := by
  induction steps generalizing phase with
  | done result => exact weaken result phase keeps
  | ask step next ih =>
      intro answer
      obtain ⟨after, allowed, rest⟩ := keeps answer
      exact ⟨after, allowed, ih answer rest⟩

theorem Keeps.bind {next : α → Steps β} {goal : β → Phase → Prop}
    (first : Keeps (fun result after => Keeps goal (next result) after) steps phase) :
    Keeps goal (steps >>= next) phase := by
  induction steps generalizing phase with
  | done result => exact first
  | ask step rest ih =>
      intro answer
      obtain ⟨after, allowed, later⟩ := first answer
      exact ⟨after, allowed, ih answer later⟩

theorem Keeps.seq {next : α → Steps β} {goal : β → Phase → Prop}
    (first : Keeps stronger steps phase)
    (second : ∀ result after, stronger result after → Keeps goal (next result) after) :
    Keeps goal (steps >>= next) phase :=
  .bind (first.mono second)

theorem Keeps.pure {result : α} (reached : goal result phase) : Keeps goal (pure result) phase :=
  reached

theorem Keeps.step {step : Step} {next : step.Answer → Steps α}
    (keeps : ∀ answer, ∃ after, phase.Allows step answer after ∧ Keeps goal (next answer) after) :
    Keeps goal (Dialogue.question step >>= next) phase := keeps

theorem Step.answer_exists (step : Step) : Nonempty step.Answer := by
  cases step with
  | readClock => exact ⟨0⟩
  | usePool op => exact ⟨((default : Pool).perform 0 op).1⟩
  | call call =>
      cases call with
      | lookUpToken userId => exact ⟨.ok ""⟩
      | _ => exact ⟨.ok ()⟩

/-- After a claim an operation has to go on, and its next step is the withdrawal. -/
theorem Keeps.withdraws {projectId : String}
    (keeps : Keeps (fun _ after => after.isPlaced = false) steps (.placed projectId)) :
    ∃ next, steps = .ask (.usePool (.withdraw projectId)) next := by
  cases steps with
  | done result => contradiction
  | ask step next =>
      obtain ⟨answer⟩ := Step.answer_exists step
      obtain ⟨after, allowed, -⟩ := keeps answer
      cases allowed with
      | withdrawn => exact ⟨next, rfl⟩
      | modest _ _ _ unplaced => contradiction
      | missed _ _ unplaced => contradiction

/-- A step that is allowed in the search for a slot and does not end it. -/
theorem Keeps.look {projectId : String} {step : Step} {next : step.Answer → Steps α}
    (look : step.isLook = true)
    (rest : ∀ answer, Keeps goal (next answer) (.seeking projectId)) :
    Keeps goal (Dialogue.question step >>= next) (.seeking projectId) :=
  fun answer => ⟨_, .looked projectId step answer look, rest answer⟩

end Rules

/-! ### Modest operations -/

/-- An operation whose steps are all modest may be run in every phase but the one after a claim. -/
def Modest {α : Type} (steps : Steps α) : Prop :=
  ∀ phase : Phase, phase.isPlaced = false →
    Keeps (fun _ after => after.isPlaced = false) steps phase

section Modest

variable {α β : Type} {steps : Steps α} {slot : SlotId} {projectId brokerUrl : String}

theorem Modest.pure (result : α) : Modest (pure result) := fun _ unplaced => unplaced

theorem Modest.step {step : Step} (modest : step.isModest = true) :
    Modest (Dialogue.question step) :=
  fun phase unplaced answer => ⟨.free, .modest phase step answer unplaced modest, rfl⟩

theorem Modest.bind {next : α → Steps β} (first : Modest steps)
    (second : ∀ result, Modest (next result)) : Modest (steps >>= next) :=
  fun phase unplaced => (first phase unplaced).seq fun result => second result

theorem Modest.map {change : α → β} (first : Modest steps) : Modest (change <$> steps) :=
  first.bind fun result => .pure (change result)

theorem notify_modest (report : Report) : Modest (notify report) :=
  .bind (.step rfl) fun _ => .pure ()

theorem provision_modest (request : Request) : Modest (provision brokerUrl slot request) := by
  refine .bind (notify_modest _) fun _ => .bind (.step rfl) fun answer => ?_
  cases answer with
  | error reason => exact .bind (.step rfl) fun _ => .pure _
  | ok done => exact .bind (notify_modest _) fun _ => .pure _

theorem serveNext_modest : Modest (serveNext brokerUrl) := by
  refine .bind (.step rfl) fun served => ?_
  cases served with
  | none => exact .pure _
  | some found =>
      refine .bind (provision_modest _) fun result => ?_
      cases result with
      | ok done => exact .pure _
      | error reason => exact .bind (notify_modest _) fun _ => .pure _

theorem serveAfter_modest (freed : Option SlotId) : Modest (serveAfter brokerUrl freed) := by
  cases freed with
  | none => exact .pure _
  | some slot => exact serveNext_modest

theorem tearDown_modest : Modest (tearDown projectId) := by
  refine .bind (.step rfl) fun holder => ?_
  cases holder with
  | none => exact .pure _
  | some slot =>
      refine .bind (.step rfl) fun _ => .bind (.step rfl) fun freed => ?_
      cases freed with
      | ok slot => exact .pure _
      | error reason => exact .pure _

theorem confirmRunning_modest (payload : Payload) : Modest (confirmRunning slot payload) :=
  .bind (.step rfl) fun _ => .bind (notify_modest _) fun _ => .pure _

theorem release_modest (payload : Payload) : Modest (release brokerUrl payload) := by
  have concluded (slot : Option SlotId) : Modest (do
      let served ← serveAfter brokerUrl slot
      notify (reportTo payload .released releasedMessage)
      return Consequence.released slot served) :=
    .bind (serveAfter_modest slot) fun _ => .bind (notify_modest _) fun _ => .pure _
  refine .bind tearDown_modest fun slot => ?_
  cases slot with
  | none => exact .bind (.step rfl) fun _ => concluded none
  | some slot => exact concluded (some slot)

theorem pause_modest (payload : Payload) : Modest (pause brokerUrl payload) := by
  refine .bind (.step rfl) fun holder => ?_
  cases holder with
  | none => exact .bind (notify_modest _) fun _ => .pure _
  | some slot =>
      refine .bind (notify_modest _) fun _ => .bind (.step rfl) fun _ => ?_
      refine .bind tearDown_modest fun freed => .bind (serveAfter_modest freed) fun _ => ?_
      exact .bind (notify_modest _) fun _ => .pure _

theorem noteActivity_modest : Modest (noteActivity projectId) := by
  refine .bind (.step rfl) fun holder => ?_
  cases holder with
  | none => exact .pure _
  | some slot => exact .bind (.step rfl) fun _ => .pure _

theorem pauseIdle_modest (seen : Slot) : Modest (pauseIdle seen) := by
  refine .bind (.step rfl) fun now => .bind (.step rfl) fun paused => ?_
  cases paused with
  | error reason => exact .pure _
  | ok done =>
      exact .bind (notify_modest _) fun _ => .bind (.step rfl) fun _ => .bind (.step rfl) fun _ =>
        .bind (notify_modest _) fun _ => .pure _

theorem pauseEach_modest (seen : List Slot) : Modest (pauseEach seen) := by
  induction seen with
  | nil => exact .pure _
  | cons slot rest ih =>
      exact .bind (pauseIdle_modest slot) fun _ => .bind ih fun _ => .pure _

end Modest

/-! ### Creates -/

section Create

variable {projectId sessionId brokerUrl : String}

theorem fillToken_keeps_seeking (request : Request) :
    Keeps (fun filled after => after = .seeking projectId ∧ filled.projectId = request.projectId)
      (fillToken request) (.seeking projectId) := by
  unfold fillToken
  split
  · refine .look rfl fun answer => ?_
    cases answer with
    | ok githubToken => exact .pure ⟨rfl, rfl⟩
    | error reason => exact .pure ⟨rfl, rfl⟩
  · exact .pure ⟨rfl, rfl⟩

/-- Looking for a slot ends the search with a claim, or leaves it where it was. -/
theorem place_keeps (attempts : Nat) :
    Keeps (fun result after =>
      ((∃ slot, result = .ok (.claimed slot)) ∧ after = .placed projectId) ∨
        (∀ slot, result ≠ .ok (.claimed slot)) ∧ after = .seeking projectId)
      (place projectId sessionId attempts) (.seeking projectId) := by
  induction attempts with
  | zero => exact .pure (.inr ⟨by simp, rfl⟩)
  | succ attempts ih =>
      refine .look rfl fun shown => ?_
      cases shown with
      | error reason => exact .pure (.inr ⟨by simp, rfl⟩)
      | ok slot =>
          refine .step fun reply => ?_
          cases reply with
          | ok done => exact ⟨_, .claimed slot projectId sessionId, .pure (.inl ⟨⟨slot, rfl⟩, rfl⟩)⟩
          | error reason =>
              refine ⟨_, .refused slot projectId sessionId reason, ?_⟩
              cases reason with
              | notFound absence => exact ih
              | _ => exact .pure (.inr ⟨by simp, rfl⟩)

theorem enqueue_keeps (request : Request) :
    Keeps (fun _ after => after.isPlaced = false) (enqueue request)
      (.seeking request.projectId) := by
  refine .step fun reply => ⟨_, .enqueued request reply, ?_⟩
  cases reply with
  | ok position => exact Modest.bind (notify_modest _) (fun _ => .pure _) .free rfl
  | error reason =>
      cases reason with
      | queueFull capacity => exact Modest.bind (notify_modest _) (fun _ => .pure _) .free rfl
      | _ => exact .pure rfl

theorem create_keeps (payload : Payload) :
    Keeps (fun _ after => after.isPlaced = false) (create brokerUrl payload) .free := by
  unfold create
  split
  · exact .pure rfl
  refine .step fun holder => ?_
  cases holder with
  | some slot =>
      exact ⟨.free, .modest _ _ _ rfl rfl, Modest.map (confirmRunning_modest payload) .free rfl⟩
  | none =>
      refine ⟨_, .missed .free payload.projectId rfl, ?_⟩
      refine .look rfl fun now => (fillToken_keeps_seeking _).seq ?_
      rintro request _ ⟨rfl, project⟩
      replace project : request.projectId = payload.projectId := project
      refine (place_keeps placementAttempts).seq ?_
      rintro result _ (⟨⟨slot, rfl⟩, rfl⟩ | ⟨unclaimed, rfl⟩)
      · refine .step fun reply => ⟨_, .withdrawn payload.projectId reply, ?_⟩
        refine Modest.bind (provision_modest request) (fun outcome => ?_) .free rfl
        cases outcome with
        | ok done => exact .pure _
        | error reason => exact .pure _
      · cases result with
        | ok placement =>
            cases placement with
            | claimed slot => exact absurd rfl (unclaimed slot)
            | held slot => exact Modest.map (confirmRunning_modest payload) _ rfl
        | error reason =>
            cases reason with
            | noSlotsAvailable =>
                rw [← project]
                exact enqueue_keeps request
            | _ => exact .pure rfl

end Create

/-- Every operation keeps to the phases. -/
theorem operation_keeps (brokerUrl : String) (operation : Operation) :
    Keeps (fun _ after => after.isPlaced = false) (operation.steps brokerUrl) .free := by
  cases operation with
  | handle event =>
      refine Keeps.seq ?_ fun _ _ unplaced => .pure unplaced
      unfold handle
      split
      · exact create_keeps event.payload
      · exact Modest.map (release_modest event.payload) .free rfl
      · exact Modest.map (pause_modest event.payload) .free rfl
      · exact .pure rfl
  | pauseIdle idleTimeout =>
      exact Modest.bind (.bind (.step rfl) pauseEach_modest) (fun _ => .pure _) .free rfl
  | serve => exact Modest.bind serveNext_modest (fun _ => .pure _) .free rfl
  | noteActivity projectId => exact Modest.bind noteActivity_modest (fun _ => .pure _) .free rfl

end WorkspacePool.Workflow
