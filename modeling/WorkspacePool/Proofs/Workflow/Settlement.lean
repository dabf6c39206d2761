import WorkspacePool.Proofs.Workflow.Company
import WorkspacePool.Proofs.Workflow.Reports
import WorkspacePool.Workflow.Delivery

/-!
How deliveries are settled, whatever other callers do meanwhile. A delivery is given back exactly
when a slot was claimed for its create and could not be set up. Every other create ends with a
report that answers it, and what cannot be handled leaves no trace.
-/

namespace WorkspacePool.Workflow

/-- The report that the step published, or attempted to. -/
def Taken.report? : Taken → Option Report
  | ⟨_, _, .call (.publish report), _⟩ => some report
  | _ => none

/-- The slot that could not be set up, and the project that it was to be set up for. -/
def Taken.refusal? : Taken → Option (SlotId × String)
  | ⟨_, _, .call (.assign slot assignment), .error _⟩ => some (slot, assignment.projectId)
  | _ => none

namespace Trail

def reports (trail : Trail) : List Report := trail.all (·.report?)

def refusals (trail : Trail) : List (SlotId × String) := trail.all (·.refusal?)

/-- A slot was claimed for the project and could not be set up. -/
def Refused (trail : Trail) (projectId : String) : Prop :=
  ∃ slot, .claim slot projectId ∈ trail.bookings ∧ (slot, projectId) ∈ trail.refusals

/-- The last report answers a create: it tells who asked that the workspace runs, is queued or
could not be made to run. -/
def Answers (trail : Trail) (payload : Payload) : Prop :=
  ∃ report, trail.reports.getLast? = some report ∧
    report.sessionId = payload.sessionId ∧ report.projectId = payload.projectId ∧
    (report.status = .running ∨ report.status = .queued ∨ report.status = .failed)

end Trail

section Views

variable {trail : Trail} {others : List Use} {now : Millis}

@[simp] theorem reports_after (step : Step) (answer : step.Answer) :
    (trail.after others now step answer).reports =
      trail.reports ++ (Taken.report? ⟨trail.pool.run others, now, step, answer⟩).toList :=
  all_after _ _ _

@[simp] theorem refusals_after (step : Step) (answer : step.Answer) :
    (trail.after others now step answer).refusals =
      trail.refusals ++ (Taken.refusal? ⟨trail.pool.run others, now, step, answer⟩).toList :=
  all_after _ _ _

end Views

/-! ### What the pool may refuse -/

section Refusals

variable {pool : Pool} {id : SlotId} {projectId sessionId : String} {now : Millis}
  {reason : PoolError}

theorem findFree_refused (refused : pool.findFree = .error reason) :
    reason = .noSlotsAvailable := by
  unfold Pool.findFree at refused
  split at refused
  · contradiction
  · exact (Except.error.inj refused).symm

/-- A claim for a project with a name fails because somebody else was first: the project holds
another slot, or the slot is not there to be claimed. -/
theorem claim_refused_cases (named : projectId ≠ "")
    (refused : (pool.claim id projectId sessionId now).1 = .error reason) :
    (∃ holder, reason = .alreadyAssigned projectId holder) ∨
      ∃ absence, reason = .notFound absence := by
  revert refused
  unfold Pool.claim
  split
  · next unnamed => exact absurd (by simpa using unnamed) named
  · split
    · next holder found =>
      intro refused
      exact .inl ⟨holder.id, (Except.error.inj refused).symm⟩
    · split
      · intro refused
        exact .inr ⟨_, (Except.error.inj refused).symm⟩
      · split
        · intro refused
          exact .inr ⟨_, (Except.error.inj refused).symm⟩
        · intro refused
          contradiction

theorem enqueue_refused {request : Request} (named : request.projectId ≠ "")
    (refused : (pool.enqueue request).1 = .error reason) :
    ∃ capacity, reason = .queueFull capacity := by
  revert refused
  unfold Pool.enqueue
  split
  · next unnamed => exact absurd (by simpa using unnamed) named
  · split
    · intro refused
      contradiction
    · split
      · intro refused
        exact ⟨_, (Except.error.inj refused).symm⟩
      · intro refused
        contradiction

end Refusals

/-! ### Procedures -/

variable {trail : Trail} {brokerUrl : String} {slot : SlotId} {projectId sessionId : String}
  {payload : Payload}

/-- A create ends well: nothing that was claimed could not be set up, and the create is answered. -/
structure Concluded (trail : Trail) (payload : Payload) : Prop where
  refusals : trail.refusals = []
  answered : trail.Answers payload

theorem notify_concludes {report : Report} (unrefused : trail.refusals = [])
    (session : report.sessionId = payload.sessionId)
    (project : report.projectId = payload.projectId)
    (status : report.status = .running ∨ report.status = .queued ∨ report.status = .failed) :
    Withstands (fun _ after => Concluded after payload) (notify report) trail := by
  refine .call fun others now answer => .pure ⟨?_, report, ?_, session, project, status⟩
  · simp [Taken.refusal?, unrefused]
  · simp [Taken.report?]

theorem confirmRunning_concludes (unrefused : trail.refusals = []) :
    Withstands (fun _ after => Concluded after payload) (confirmRunning slot payload) trail := by
  unfold confirmRunning
  refine .use fun others now => ?_
  refine (notify_concludes ?_ rfl rfl (.inl rfl)).seq fun _ _ done => .pure done
  simp [Taken.refusal?, unrefused]

theorem enqueue_concludes {request : Request} (unrefused : trail.refusals = [])
    (named : payload.projectId ≠ "") (project : request.projectId = payload.projectId)
    (session : request.sessionId = payload.sessionId) :
    Withstands (fun result after => (∃ conclusion, result = .ok conclusion) ∧
      Concluded after payload) (enqueue request) trail := by
  unfold enqueue
  refine .use fun others now => ?_
  split
  · next position accepted =>
    refine (notify_concludes ?_ session project (.inr (.inl rfl))).seq
      fun _ _ done => .pure ⟨⟨_, rfl⟩, done⟩
    simp [Taken.refusal?, unrefused]
  · next capacity full =>
    refine (notify_concludes ?_ session project (.inr (.inr rfl))).seq
      fun _ _ done => .pure ⟨⟨_, rfl⟩, done⟩
    simp [Taken.refusal?, unrefused]
  · next reason other refused =>
    obtain ⟨capacity, full⟩ := enqueue_refused (project ▸ named) refused
    exact absurd full (other capacity)

theorem fillToken_keeps (request : Request) :
    Withstands (fun filled after => after.refusals = trail.refusals ∧
      filled.projectId = request.projectId ∧ filled.sessionId = request.sessionId)
      (fillToken request) trail := by
  unfold fillToken
  split
  · refine .call fun others now answer => ?_
    cases answer with
    | ok githubToken => exact .pure ⟨by simp [Taken.refusal?], rfl, rfl⟩
    | error reason => exact .pure ⟨by simp [Taken.refusal?], rfl, rfl⟩
  · exact .pure ⟨rfl, rfl, rfl⟩

/-- However often a slot is lost to others, a project is placed, found to hold a slot, or there is
none for it. -/
theorem place_outcomes (named : projectId ≠ "") (attempts : Nat) :
    Withstands (fun result after => after.refusals = trail.refusals ∧
      (result = .error .noSlotsAvailable ∨ (∃ slot, result = .ok (.held slot)) ∨
        ∃ slot, result = .ok (.claimed slot) ∧ .claim slot projectId ∈ after.bookings))
      (place projectId sessionId attempts) trail := by
  induction attempts generalizing trail with
  | zero => exact .pure ⟨rfl, .inl rfl⟩
  | succ attempts ih =>
      unfold place
      refine .use fun others now => ?_
      split
      · next reason refused =>
        exact .pure ⟨by simp [Taken.refusal?], .inl (congrArg _ (findFree_refused refused))⟩
      · next slot shown =>
        refine .use fun rivals later => ?_
        split
        · next claimed =>
          rw [claimed]
          refine .pure ⟨by simp [Taken.refusal?], .inr (.inr ⟨slot, rfl, ?_⟩)⟩
          simp [Taken.booking?, PoolOp.booking?]
        · exact .pure ⟨by simp [Taken.refusal?], .inr (.inl ⟨_, rfl⟩)⟩
        · refine ih.mono fun result after outcome => ⟨?_, outcome.2⟩
          simpa [Taken.refusal?] using outcome.1
        · next reason elsewhere gone refused =>
          rcases claim_refused_cases named refused with ⟨holder, rfl⟩ | ⟨absence, rfl⟩
          · exact absurd rfl (elsewhere _ _)
          · exact absurd rfl (gone _)

/-- A claimed slot is set up, and who asked is told, or setting it up is refused. -/
theorem provision_concludes {request : Request} (unrefused : trail.refusals = [])
    (claimed : .claim slot request.projectId ∈ trail.bookings)
    (project : request.projectId = payload.projectId)
    (session : request.sessionId = payload.sessionId) :
    Withstands (fun result after =>
      (result = .ok () ∧ Concluded after payload) ∨
        ((∃ reason, result = .error (.provision reason)) ∧ after.Refused payload.projectId))
      (provision brokerUrl slot request) trail := by
  unfold provision
  refine .call fun others now answer => .call fun rivals later outcome => ?_
  cases outcome with
  | error reason =>
      refine .use fun last latest => .pure (.inr ⟨⟨reason, rfl⟩, slot, ?_, ?_⟩)
      · simp [← project, claimed]
      · simp [← project, Taken.refusal?, Assignment.ofRequest]
  | ok done =>
      refine (notify_concludes ?_ session project (.inl rfl)).seq
        fun _ _ done => .pure (.inl ⟨rfl, done⟩)
      simp [Taken.refusal?, unrefused]

/-- How a create ends: it is answered, or a slot that was claimed for it could not be set up. -/
def Ends (payload : Payload) (result : Except WorkflowError Consequence) (trail : Trail) : Prop :=
  ((∃ conclusion, result = .ok conclusion) ∧ Concluded trail payload) ∨
    ((∃ reason, result = .error (.provision reason)) ∧ trail.Refused payload.projectId)

/-- A create with a project ends in one of these ways, and fails for no other reason. -/
theorem create_ends (unrefused : trail.refusals = []) (named : payload.projectId ≠ "") :
    Withstands (Ends payload) (create brokerUrl payload) trail := by
  have confirmed {slot : SlotId} {trail : Trail} (unrefused : trail.refusals = []) :
      Withstands (Ends payload) (.ok <$> confirmRunning slot payload) trail :=
    Withstands.map ((confirmRunning_concludes unrefused).mono
      fun _ _ done => .inl ⟨⟨_, rfl⟩, done⟩)
  unfold create
  split
  · next unnamed => exact absurd (by simpa using unnamed) named
  refine .use fun others now => ?_
  split
  · exact confirmed (by simp [Taken.refusal?, unrefused])
  refine .look fun others now => (fillToken_keeps _).seq ?_
  rintro request filled ⟨kept, project, session⟩
  replace kept : filled.refusals = [] := by
    simpa [Taken.refusal?, unrefused] using kept
  refine (place_outcomes named placementAttempts).seq ?_
  rintro result placed ⟨still, rfl | ⟨slot, rfl⟩ | ⟨slot, rfl, claimed⟩⟩
  · exact (enqueue_concludes (still.trans kept) named project session).mono fun _ _ => .inl
  · exact confirmed (still.trans kept)
  · refine .use fun others now => ?_
    refine (provision_concludes ?_ ?_ project session).seq ?_
    · simp [Taken.refusal?, still, kept]
    · rw [bookings_after, project]
      exact List.mem_append_left _ claimed
    · rintro outcome after (⟨rfl, done⟩ | ⟨⟨reason, rfl⟩, refused⟩)
      · exact .pure (.inl ⟨⟨_, rfl⟩, done⟩)
      · exact .pure (.inr ⟨⟨reason, rfl⟩, refused⟩)

/-- What is no create with a project is handled without a failure. -/
theorem handle_succeeds {event : Event}
    (other : event.kind = .createRequested → event.payload.projectId = "") :
    Withstands (fun result _ => ∃ conclusion, result = .ok conclusion) (handle brokerUrl event)
      trail := by
  unfold handle
  split
  · next creates =>
    unfold create
    simp only [other creates, beq_self_eq_true, ↓reduceIte]
    exact .pure ⟨_, rfl⟩
  · exact .map (.always fun conclusion _ => ⟨conclusion, rfl⟩)
  · exact .map (.always fun conclusion _ => ⟨conclusion, rfl⟩)
  · exact .pure ⟨_, rfl⟩

theorem handle_create {event : Event} (creates : event.kind = .createRequested) :
    handle brokerUrl event = create brokerUrl event.payload := by
  simp only [handle, creates]

/-- An event of an unknown kind and a create without a project are ignored at once. -/
theorem handle_ignored {event : Event}
    (idle : event.kind = .unknown ∨ event.kind = .createRequested ∧ event.payload.projectId = "") :
    handle brokerUrl event = return .ok .ignored := by
  rcases idle with unknown | ⟨creates, unnamed⟩
  · simp only [handle, unknown]
  · simp only [handle_create creates, create, unnamed, beq_self_eq_true, ↓reduceIte]

/-- The pool refuses nothing that a caller of an event would be told of. -/
theorem handle_pool_error (event : Event) (company : Company) (pool : Pool) (reason : PoolError) :
    ((Trail.start pool).run company (handle brokerUrl event)).1 ≠ .error (.pool reason) := by
  intro failed
  have unrefused : (Trail.start pool).refusals = [] := rfl
  by_cases creates : event.kind = .createRequested ∧ event.payload.projectId ≠ ""
  · rw [handle_create creates.1] at failed
    rcases (create_ends unrefused creates.2).run company with
      ⟨⟨conclusion, ok⟩, -⟩ | ⟨⟨other, error⟩, -⟩
    · rw [ok] at failed
      contradiction
    · rw [error] at failed
      cases failed
  · have other : event.kind = .createRequested → event.payload.projectId = "" := by
      intro kind
      simpa [kind] using creates
    obtain ⟨conclusion, ok⟩ := (handle_succeeds other).run company
    rw [ok] at failed
    contradiction

/-! ### Deliveries -/

theorem settle_decoded {body : List UInt8} {event : Event}
    (decoded : Wire.ofBytes Event body = some event) :
    settle brokerUrl body = (do
      match ← handle brokerUrl event with
      | .ok _ => return .ack
      | .error reason => return if reason.deservesRetry then .requeue else .ack) := by
  unfold settle
  split
  · next undecoded =>
    rw [decoded] at undecoded
    contradiction
  · next other found =>
    obtain rfl : event = other := Option.some.inj (decoded.symm.trans found)
    rfl

/-- A body that cannot be decoded and an event that is ignored are dropped at once. -/
theorem settle_idle {body : List UInt8}
    (idle : ∀ event, Wire.ofBytes Event body = some event →
      event.kind = .unknown ∨ event.kind = .createRequested ∧ event.payload.projectId = "") :
    settle brokerUrl body = return .ack := by
  cases decoded : Wire.ofBytes Event body with
  | none =>
      unfold settle
      rw [decoded]
  | some event =>
      rw [settle_decoded decoded, handle_ignored (idle event decoded)]
      rfl

/-- A create with a project is given back exactly when it was refused a slot that was claimed for
it, and answered when it is not given back. -/
theorem settle_create {body : List UInt8} {event : Event}
    (decoded : Wire.ofBytes Event body = some event) (creates : event.kind = .createRequested)
    (named : event.payload.projectId ≠ "") (unrefused : trail.refusals = []) :
    Withstands (fun settlement after =>
      (settlement = .requeue ↔ after.Refused event.payload.projectId) ∧
        (settlement = .ack → after.Answers event.payload)) (settle brokerUrl body) trail := by
  rw [settle_decoded decoded, handle_create creates]
  refine (create_ends unrefused named).seq ?_
  rintro result after (⟨⟨conclusion, rfl⟩, done⟩ | ⟨⟨reason, rfl⟩, refused⟩)
  · refine .pure ⟨⟨fun back => by contradiction, ?_⟩, fun _ => done.answered⟩
    rintro ⟨slot, -, member⟩
    simp [done.refusals] at member
  · exact .pure ⟨⟨fun _ => refused, fun _ => rfl⟩, fun kept => by contradiction⟩

/-- Everything else is acknowledged. -/
theorem settle_other {body : List UInt8}
    (other : ∀ event, Wire.ofBytes Event body = some event → event.kind = .createRequested →
      event.payload.projectId = "") :
    Withstands (fun settlement _ => settlement = .ack) (settle brokerUrl body) trail := by
  cases decoded : Wire.ofBytes Event body with
  | none =>
      rw [settle_idle (by simp [decoded])]
      exact .pure rfl
  | some event =>
      rw [settle_decoded decoded]
      refine (handle_succeeds (other event decoded)).seq ?_
      rintro result after ⟨conclusion, rfl⟩
      exact .pure rfl

/-- How a delivery of any body to any pool is settled, whatever other callers do before each of its
steps, the clock reads and the collaborators answer. It is given back exactly when it is a create
with a project for which a slot was claimed and could not be set up. A body that cannot be decoded,
an event of an unknown kind and a create without a project take no step at all. Every other create
that is acknowledged was answered by its last report. No event fails because of the pool. -/
theorem deliveries_settled (brokerUrl : String) (body : List UInt8) (company : Company)
    (pool : Pool) :
    let (settlement, trail) := (Trail.start pool).run company (settle brokerUrl body)
    (settlement = .requeue ↔ ∃ event, Wire.ofBytes Event body = some event ∧
      event.kind = .createRequested ∧ event.payload.projectId ≠ "" ∧
      trail.Refused event.payload.projectId) ∧
    ((∀ event, Wire.ofBytes Event body = some event → event.kind = .unknown ∨
      event.kind = .createRequested ∧ event.payload.projectId = "") →
      settlement = .ack ∧ trail = Trail.start pool) ∧
    (∀ event, Wire.ofBytes Event body = some event → event.kind = .createRequested →
      event.payload.projectId ≠ "" → settlement = .ack → trail.Answers event.payload) ∧
    ∀ event reason, ((Trail.start pool).run company (handle brokerUrl event)).1 ≠
      .error (.pool reason) := by
  have noPoolError (event : Event) (reason : PoolError) :
      ((Trail.start pool).run company (handle brokerUrl event)).1 ≠ .error (.pool reason) :=
    handle_pool_error event company pool reason
  have unrefused : (Trail.start pool).refusals = [] := rfl
  refine ⟨⟨?_, ?_⟩, ?_, ?_, noPoolError⟩
  · intro givenBack
    by_cases creates : ∃ event, Wire.ofBytes Event body = some event ∧
        event.kind = .createRequested ∧ event.payload.projectId ≠ ""
    · obtain ⟨event, decoded, isCreate, named⟩ := creates
      have refused := ((settle_create decoded isCreate named unrefused).run company).1.mp givenBack
      exact ⟨event, decoded, isCreate, named, refused⟩
    · have other (event : Event) (decoded : Wire.ofBytes Event body = some event)
          (isCreate : event.kind = .createRequested) : event.payload.projectId = "" := by
        by_contra named
        exact creates ⟨event, decoded, isCreate, named⟩
      have acknowledged : ((Trail.start pool).run company (settle brokerUrl body)).1 = .ack :=
        (settle_other other).run company
      rw [acknowledged] at givenBack
      contradiction
  · rintro ⟨event, decoded, isCreate, named, refused⟩
    exact ((settle_create decoded isCreate named unrefused).run company).1.mpr refused
  · intro idle
    rw [settle_idle idle]
    exact ⟨rfl, rfl⟩
  · intro event decoded isCreate named
    exact ((settle_create decoded isCreate named unrefused).run company).2

end WorkspacePool.Workflow
