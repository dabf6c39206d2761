import WorkspacePool.Proofs.Workflow.Routes
import WorkspacePool.Workflow.Upkeep

/-!
What an operation does that others can tell, in its order: which request it draws from the queue,
what it reports, and what it asks of the provisioner. A small grammar says which sequences there
are and which result belongs to each. Every run of an operation follows it, whatever others do to
the pool meanwhile and whatever fails, because each step adds its own part to the sequence.
-/

namespace WorkspacePool.Workflow

inductive Deed where
  /-- The head of the queue was drawn, and the slot claimed for it. -/
  | drew (slot : SlotId) (request : Request)
  /-- A report was published, or lost on the way. -/
  | reported (report : Report)
  | assigned (slot : SlotId) (assignment : Assignment) (outcome : Except ProvisionError Unit)
  | released (slot : SlotId) (projectId : String)

def Call.deed? : (call : Call) → call.Answer → Option Deed
  | .publish report, _ => some (.reported report)
  | .assign slot assignment, outcome => some (.assigned slot assignment outcome)
  | .release slot projectId, _ => some (.released slot projectId)
  | .lookUpToken _, _ => none

def Taken.deed? : Taken → Option Deed
  | ⟨_, _, .usePool .claimNext, some (slot, request)⟩ => some (.drew slot request)
  | ⟨_, _, .call call, answer⟩ => call.deed? answer
  | _ => none

def Trail.deeds (trail : Trail) : List Deed := trail.all (·.deed?)

/-! ### The grammar -/

section Grammar

variable (brokerUrl : String)

/-- A workspace is reported to run only right after the provisioner succeeded. -/
inductive Provisions (slot : SlotId) (request : Request) :
    Except WorkflowError Unit → List Deed → Prop
  | succeeded : Provisions slot request (.ok ())
      [.reported (reportOn request .provisioning (provisioningMessage slot)),
        .assigned slot (Assignment.ofRequest request brokerUrl) (.ok ()),
        .reported (reportOn request .running (runningMessage slot))]
  | failed (reason : ProvisionError) : Provisions slot request (.error (.provision reason))
      [.reported (reportOn request .provisioning (provisioningMessage slot)),
        .assigned slot (Assignment.ofRequest request brokerUrl) (.error reason)]

/-- One attempt to serve the queue. -/
inductive ServesOne : Served → List Deed → Prop
  | idle : ServesOne .idle []
  | provisioned {slot : SlotId} {request : Request} {deeds : List Deed}
      (done : Provisions brokerUrl slot request (.ok ()) deeds) :
      ServesOne (.provisioned slot request.projectId) (.drew slot request :: deeds)
  | failed {slot : SlotId} {request : Request} {reason : WorkflowError} {deeds : List Deed}
      (refused : Provisions brokerUrl slot request (.error reason) deeds) :
      ServesOne (.failed slot request.projectId) (.drew slot request :: deeds ++
        [.reported (reportOn request .failed (failedMessage reason))])

/-- The queue is served only if a slot was freed. -/
def ServesAfter : Option SlotId → Served → List Deed → Prop
  | some _, served, deeds => ServesOne brokerUrl served deeds
  | none, served, deeds => served = .idle ∧ deeds = []

/-- The provisioner is asked at most once, and a slot is freed only after it was asked. -/
inductive TearsDown (projectId : String) : Option SlotId → List Deed → Prop
  | unheld : TearsDown projectId none []
  | lost (slot : SlotId) : TearsDown projectId none [.released slot projectId]
  | freed (slot freed : SlotId) : TearsDown projectId (some freed) [.released slot projectId]

inductive Creates (payload : Payload) : Except WorkflowError Consequence → List Deed → Prop
  | alreadyRunning (slot : SlotId) : Creates payload (.ok (.alreadyRunning slot))
      [.reported (reportTo payload .running (runningMessage slot))]
  | queued (position : Nat) : Creates payload (.ok (.queued position))
      [.reported (reportTo payload .queued (queuedMessage position))]
  | rejected : Creates payload (.ok .rejected)
      [.reported (reportTo payload .failed queueFullMessage)]
  | running {slot : SlotId} {request : Request} {deeds : List Deed}
      (made : request.MadeOf payload) (done : Provisions brokerUrl slot request (.ok ()) deeds) :
      Creates payload (.ok (.running slot)) deeds
  | failed {slot : SlotId} {request : Request} {reason : WorkflowError} {deeds : List Deed}
      (made : request.MadeOf payload)
      (refused : Provisions brokerUrl slot request (.error reason) deeds) :
      Creates payload (.error reason) deeds

inductive Releases (payload : Payload) : Consequence → List Deed → Prop
  | released {freed : Option SlotId} {served : Served} {first second : List Deed}
      (gone : TearsDown payload.projectId freed first)
      (next : ServesAfter brokerUrl freed served second) :
      Releases payload (.released freed served)
        (first ++ second ++ [.reported (reportTo payload .released releasedMessage)])

inductive Pauses (payload : Payload) : Consequence → List Deed → Prop
  | unheld : Pauses payload (.paused none .idle)
      [.reported (reportTo payload .paused pausedMessage)]
  | paused {freed : Option SlotId} {served : Served} {first second : List Deed}
      (gone : TearsDown payload.projectId freed first)
      (next : ServesAfter brokerUrl freed served second) :
      Pauses payload (.paused freed served)
        (.reported (reportTo payload .pausing pausingMessage) :: first ++ second ++
          [.reported (reportTo payload .paused pausedMessage)])

/-- What may be done for an event, and what handling it then comes to. -/
def Handles (event : Event) (result : Except WorkflowError Consequence) (deeds : List Deed) :
    Prop :=
  match event.kind with
  | .createRequested =>
      if event.payload.projectId = "" then result = .ok .ignored ∧ deeds = []
      else Creates brokerUrl event.payload result deeds
  | .releaseRequested =>
      ∃ conclusion, result = .ok conclusion ∧ Releases brokerUrl event.payload conclusion deeds
  | .pauseRequested =>
      ∃ conclusion, result = .ok conclusion ∧ Pauses brokerUrl event.payload conclusion deeds
  | .unknown => result = .ok .ignored ∧ deeds = []

end Grammar

/-! ### What steps add -/

/-- The deeds since a trail, and the result, are as they should be. -/
def Grows {α : Type} (goal : α → List Deed → Prop) (trail : Trail) (result : α) (after : Trail) :
    Prop :=
  ∃ deeds, after.deeds = trail.deeds ++ deeds ∧ goal result deeds

def Adds {α : Type} (goal : α → List Deed → Prop) (steps : Steps α) : Prop :=
  ∀ trail, Withstands (Grows goal trail) steps trail

section Rules

variable {α β : Type} {goal stronger : α → List Deed → Prop} {steps : Steps α}

theorem deeds_after {trail : Trail} {others : List Use} {now : Millis} (step : Step)
    (answer : step.Answer) :
    (trail.after others now step answer).deeds =
      trail.deeds ++ (Taken.deed? ⟨trail.pool.run others, now, step, answer⟩).toList :=
  all_after _ _ _

theorem Adds.pure {result : α} (reached : goal result []) : Adds goal (pure result) :=
  fun _ => .pure ⟨[], (List.append_nil _).symm, reached⟩

theorem Adds.mono (adds : Adds stronger steps)
    (weaken : ∀ result deeds, stronger result deeds → goal result deeds) : Adds goal steps := by
  intro trail
  apply (adds trail).mono
  intro result after reached
  obtain ⟨deeds, grown, strong⟩ := reached
  exact ⟨deeds, grown, weaken result deeds strong⟩

theorem Adds.seq {next : α → Steps β} {goal : β → List Deed → Prop}
    (first : Adds stronger steps) (second : ∀ result early, stronger result early →
      Adds (fun final late => goal final (early ++ late)) (next result)) :
    Adds goal (steps >>= next) := by
  intro trail
  apply (first trail).seq
  intro result middle reached
  obtain ⟨early, grown, strong⟩ := reached
  apply (second result early strong middle).mono
  intro final after ended
  obtain ⟨late, further, holds⟩ := ended
  exact ⟨early ++ late, by rw [further, grown, List.append_assoc], holds⟩

theorem Adds.map {change : α → β} {goal : β → List Deed → Prop}
    (adds : Adds (fun result => goal (change result)) steps) : Adds goal (change <$> steps) :=
  fun trail => .map (adds trail)

/-- The first step adds its own deed, if it is one, before what the rest adds. -/
theorem adds_step {step : Step} {answer : step.Answer} {rest : Steps α} {trail : Trail}
    {others : List Use} {now : Millis} {deed : Option Deed}
    (shown : Taken.deed? ⟨trail.pool.run others, now, step, answer⟩ = deed)
    (adds : Adds (fun result deeds => goal result (deed.toList ++ deeds)) rest) :
    Withstands (Grows goal trail) rest (trail.after others now step answer) := by
  apply (adds _).mono
  intro result after ended
  obtain ⟨deeds, grown, holds⟩ := ended
  rw [deeds_after, shown, List.append_assoc] at grown
  exact ⟨_, grown, holds⟩

theorem Adds.look {next : Millis → Steps α} (rest : ∀ now, Adds goal (next now)) :
    Adds goal (Steps.now >>= next) :=
  fun _ => .look fun _ now => adds_step rfl (rest now)

/-- Only drawing from the queue is a deed. -/
theorem Adds.use {op : PoolOp} {next : op.Reply → Steps α} (other : op ≠ .claimNext)
    (rest : ∀ (pool : Pool) (now : Millis), Adds goal (next (pool.perform now op).1)) :
    Adds goal (Steps.usePool op >>= next) := by
  intro trail
  apply Withstands.use
  intro others now
  have silent (pool : Pool) (reply : op.Reply) :
      Taken.deed? ⟨pool, now, .usePool op, reply⟩ = none := by
    cases op with
    | claimNext => contradiction
    | _ => rfl
  exact adds_step (silent _ _) (rest _ now)

theorem Adds.call {call : Call} {next : call.Answer → Steps α}
    (rest : ∀ answer, Adds (fun result deeds => goal result ((call.deed? answer).toList ++ deeds))
      (next answer)) :
    Adds goal (Steps.call call >>= next) :=
  fun _ => .call fun _ _ answer => adds_step rfl (rest answer)

theorem adds_notify {report : Report} :
    Adds (fun _ deeds => deeds = [.reported report]) (notify report) :=
  .call fun _ => .pure rfl

theorem Adds.notify {report : Report} {next : Unit → Steps α}
    (rest : Adds (fun result deeds => goal result (.reported report :: deeds)) (next ())) :
    Adds goal (notify report >>= next) := by
  apply adds_notify.seq
  intro _ early reported
  rw [reported]
  exact rest

end Rules

/-! ### What the operations add -/

variable {brokerUrl projectId sessionId : String} {slot : SlotId} {request : Request}
  {payload : Payload}

theorem provision_adds :
    Adds (Provisions brokerUrl slot request) (provision brokerUrl slot request) := by
  unfold provision
  apply Adds.notify
  apply Adds.call
  intro outcome
  cases outcome with
  | error reason =>
      apply Adds.use (by simp)
      intro pool now
      exact .pure (.failed reason)
  | ok done =>
      apply Adds.notify
      exact .pure .succeeded

theorem serveNext_adds : Adds (ServesOne brokerUrl) (serveNext brokerUrl) := by
  intro trail
  unfold serveNext
  apply Withstands.use
  intro others now
  split
  · next nobody =>
    rw [nobody]
    exact adds_step rfl (.pure .idle)
  · next slot request drawn =>
    rw [drawn]
    apply adds_step rfl
    apply provision_adds.seq
    intro result deeds setUp
    cases setUp with
    | succeeded => exact .pure (.provisioned .succeeded)
    | failed reason =>
        apply Adds.notify
        exact .pure (.failed (.failed reason))

theorem serveAfter_adds (freed : Option SlotId) :
    Adds (ServesAfter brokerUrl freed) (serveAfter brokerUrl freed) := by
  cases freed with
  | none => exact .pure ⟨rfl, rfl⟩
  | some slot => exact serveNext_adds

theorem tearDown_adds : Adds (TearsDown projectId) (tearDown projectId) := by
  unfold tearDown
  apply Adds.use (by simp)
  intro pool now
  split
  · exact .pure .unheld
  · next slot held =>
    apply Adds.call
    intro answer
    apply Adds.use (by simp)
    intro pool now
    split
    · exact .pure (.freed _ _)
    · exact .pure (.lost _)

theorem confirmRunning_adds :
    Adds (fun conclusion deeds => conclusion = .alreadyRunning slot ∧
      deeds = [.reported (reportTo payload .running (runningMessage slot))])
      (confirmRunning slot payload) := by
  unfold confirmRunning
  apply Adds.use (by simp)
  intro pool now
  apply Adds.notify
  exact .pure ⟨rfl, rfl⟩

/-- Looking up a token is no deed, and changes nothing else about the request. -/
theorem fillToken_adds (made : request.MadeOf payload) :
    Adds (fun filled deeds => filled.MadeOf payload ∧ deeds = []) (fillToken request) := by
  obtain ⟨now, same⟩ := made
  unfold fillToken
  split
  · apply Adds.call
    intro answer
    cases answer with
    | ok githubToken => exact .pure ⟨⟨now, by rw [same]⟩, rfl⟩
    | error reason => exact .pure ⟨⟨now, same⟩, rfl⟩
  · exact .pure ⟨⟨now, same⟩, rfl⟩

theorem place_adds (named : projectId ≠ "") (attempts : Nat) :
    Adds (fun result deeds => deeds = [] ∧
      ∀ reason, result = .error reason → reason = .noSlotsAvailable)
      (place projectId sessionId attempts) := by
  induction attempts with
  | zero => exact .pure ⟨rfl, fun reason full => (Except.error.inj full).symm⟩
  | succ attempts ih =>
      unfold place
      apply Adds.use (by simp)
      intro pool now
      split
      · next reason refused =>
        apply Adds.pure
        rw [findFree_refused refused]
        exact ⟨rfl, fun other full => (Except.error.inj full).symm⟩
      · apply Adds.use (by simp)
        intro pool now
        split
        · exact .pure ⟨rfl, by simp⟩
        · exact .pure ⟨rfl, by simp⟩
        · exact ih
        · next reason elsewhere gone refused =>
          cases claim_refused_cases named refused with
          | inl held =>
              obtain ⟨holder, same⟩ := held
              exact absurd same (elsewhere _ _)
          | inr missing =>
              obtain ⟨absence, same⟩ := missing
              exact absurd same (gone _)

theorem enqueue_adds (named : payload.projectId ≠ "") (made : request.MadeOf payload) :
    Adds (Creates brokerUrl payload) (enqueue request) := by
  have report (status : WorkspaceStatus) (message : String) :
      reportOn request status message = reportTo payload status message := by
    simp only [reportOn, reportTo, made.projectId, made.sessionId]
  unfold enqueue
  apply Adds.use (by simp)
  intro pool now
  split
  · next position accepted =>
    rw [report]
    exact .notify (.pure (.queued position))
  · rw [report]
    exact .notify (.pure .rejected)
  · next reason other refused =>
    rw [← made.projectId] at named
    obtain ⟨capacity, full⟩ := enqueue_refused named refused
    exact absurd full (other capacity)

theorem create_adds (named : payload.projectId ≠ "") :
    Adds (Creates brokerUrl payload) (create brokerUrl payload) := by
  have confirmed (slot : SlotId) :
      Adds (Creates brokerUrl payload) (.ok <$> confirmRunning slot payload) := by
    apply Adds.map
    apply confirmRunning_adds.mono
    intro conclusion deeds told
    rw [told.1, told.2]
    exact .alreadyRunning slot
  unfold create
  rw [if_neg (by simpa using named)]
  apply Adds.use (by simp)
  intro pool now
  split
  · next holder held => exact confirmed holder.id
  apply Adds.look
  intro now
  apply (fillToken_adds ⟨now, rfl⟩).seq
  intro request _ filled
  obtain ⟨made, rfl⟩ := filled
  apply (place_adds named placementAttempts).seq
  intro result _ placed
  obtain ⟨rfl, refused⟩ := placed
  split
  · next holder => exact confirmed holder
  · exact enqueue_adds named made
  · next reason other => exact absurd (refused reason rfl) other
  · next slot =>
    apply Adds.use (by simp)
    intro pool now
    apply provision_adds.seq
    intro outcome deeds setUp
    cases setUp with
    | succeeded => exact .pure (.running made .succeeded)
    | failed reason => exact .pure (.failed made (.failed reason))

theorem release_adds : Adds (Releases brokerUrl payload) (release brokerUrl payload) := by
  have served (freed : Option SlotId) {first : List Deed}
      (gone : TearsDown payload.projectId freed first) :
      Adds (fun conclusion rest => Releases brokerUrl payload conclusion (first ++ rest)) (do
        let served ← serveAfter brokerUrl freed
        notify (reportTo payload .released releasedMessage)
        return .released freed served) := by
    apply (serveAfter_adds freed).seq
    intro served second next
    apply Adds.notify
    apply Adds.pure
    rw [← List.append_assoc]
    exact .released gone next
  unfold release
  apply tearDown_adds.seq
  intro freed first gone
  split
  · apply Adds.use (by simp)
    intro pool now
    exact served freed gone
  · exact served freed gone

theorem pause_adds : Adds (Pauses brokerUrl payload) (pause brokerUrl payload) := by
  unfold pause
  apply Adds.use (by simp)
  intro pool now
  split
  · exact .notify (.pure .unheld)
  · apply Adds.notify
    apply Adds.use (by simp)
    intro pool now
    apply tearDown_adds.seq
    intro freed first gone
    apply (serveAfter_adds freed).seq
    intro served second next
    apply Adds.notify
    apply Adds.pure
    simpa using Pauses.paused gone next

theorem handle_adds (event : Event) :
    Adds (Handles brokerUrl event) (handle brokerUrl event) := by
  unfold Handles handle
  cases event.kind with
  | createRequested =>
      dsimp only
      split
      · next unnamed =>
        simp only [create, unnamed, beq_self_eq_true, ↓reduceIte]
        exact .pure ⟨rfl, rfl⟩
      · next named => exact create_adds named
  | releaseRequested =>
      exact .map (release_adds.mono fun conclusion deeds done => ⟨conclusion, rfl, done⟩)
  | pauseRequested =>
      exact .map (pause_adds.mono fun conclusion deeds done => ⟨conclusion, rfl, done⟩)
  | unknown => exact .pure ⟨rfl, rfl⟩

theorem Adds.run {α : Type} {goal : α → List Deed → Prop} {steps : Steps α}
    (adds : Adds goal steps) (pool : Pool) (company : Company) :
    let ended := (Trail.start pool).run company steps
    goal ended.1 ended.2.deeds := by
  intro ended
  obtain ⟨deeds, all, reached⟩ := (adds (Trail.start pool)).run company
  have only : ended.2.deeds = deeds := all
  rwa [only]

/-- The handling of an event and an attempt to serve the queue, among others who use the pool in any
way before every step and with collaborators that fail at will: what is done follows the grammar,
and the result is the one that belongs to it. -/
theorem deeds_are_well_formed (brokerUrl : String) (pool : Pool) (company : Company) :
    (∀ event : Event,
      let ended := (Trail.start pool).run company (handle brokerUrl event)
      Handles brokerUrl event ended.1 ended.2.deeds) ∧
    let ended := (Trail.start pool).run company (serveQueue brokerUrl)
    ServesOne brokerUrl ended.1 ended.2.deeds :=
  ⟨fun event => (handle_adds event).run pool company, serveNext_adds.run pool company⟩

end WorkspacePool.Workflow
