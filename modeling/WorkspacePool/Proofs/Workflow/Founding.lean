import WorkspacePool.Proofs.Workflow.Custody
import WorkspacePool.Proofs.Workflow.Settlement

/-!
Every operation takes founded steps only, whatever it is answered (`operation_founded`), and the
slots that it says to have freed were freed right after their workspaces were torn down.
-/

namespace WorkspacePool.Workflow

variable {trail : Trail} {others : List Use} {now : Millis} {slot freed : SlotId}
  {projectId sessionId brokerUrl : String}

theorem notify_plain {report : Report} (other : report.status ≠ .running) :
    Confined Step.isPlain (notify report) :=
  .bind (.step (by simp [Step.isPlain, other])) fun _ => .pure ()

theorem provision_founded {request : Request} (founded : AllFounded trail.strides)
    (claimed : Claimed trail.strides slot request.projectId) :
    Withstands (fun _ after => AllFounded after.strides) (provision brokerUrl slot request)
      trail := by
  unfold provision
  refine .call fun others now answer => .call fun rivals later outcome => ?_
  have assigned : AllFounded ((trail.after others now (.call (.publish
      (reportOn request .provisioning (provisioningMessage slot)))) answer).after rivals later
      (.call (.assign slot (.ofRequest request brokerUrl))) outcome).strides :=
    .assign (.plain founded rfl) (claimed.append (by simp [Trail.stride]) nofun)
  cases outcome with
  | error reason => exact .use fun last latest => .pure (assigned.free rfl rfl)
  | ok done =>
      refine .call fun last latest told => .pure (assigned.run rfl rfl ?_)
      exact .inr ⟨_, rfl, rfl, rfl⟩

theorem serveNext_founded (founded : AllFounded trail.strides) :
    Withstands (fun _ after => AllFounded after.strides) (serveNext brokerUrl) trail := by
  unfold serveNext
  refine .use fun others now => ?_
  split
  · exact .pure (founded.plain rfl)
  · next slot request served =>
    rw [served]
    refine (provision_founded (founded.plain rfl) (claimed_of_booked rfl rfl)).seq ?_
    intro result after provisioned
    cases result with
    | ok done => exact .pure provisioned
    | error reason =>
        exact (Confined.bind (notify_plain (by simp [reportOn])) fun _ => .pure _).founded
          provisioned

theorem serveAfter_founded (founded : AllFounded trail.strides) (freed : Option SlotId) :
    Withstands (fun _ after => AllFounded after.strides) (serveAfter brokerUrl freed) trail := by
  cases freed with
  | none => exact .pure founded
  | some slot => exact serveNext_founded founded

theorem tearDown_founded (founded : AllFounded trail.strides) :
    Withstands (fun freed after => AllFounded after.strides ∧
      ∀ slot, freed = some slot → TornDown after.strides slot projectId)
      (tearDown projectId) trail := by
  unfold tearDown
  refine .use fun others now => ?_
  split
  · exact .pure ⟨founded.plain rfl, by simp⟩
  · next row found =>
    rw [found]
    refine .call fun between toldAt answer => .use fun rest later => ?_
    have released : AllFounded ((trail.after others now (.usePool (.holder projectId))
        (some row)).after between toldAt (.call (.release row.id projectId)) answer).strides :=
      .release (.plain founded rfl) (inCustody_of_located rfl)
    split
    · next freed booked =>
      rw [booked]
      refine .pure ⟨released.free rfl rfl, ?_⟩
      intro slot same
      cases same
      exact tornDown_of_last rfl rfl rfl
    · exact .pure ⟨released.free rfl rfl, by simp⟩

theorem confirmRunning_founded {payload : Payload} (founded : AllFounded trail.strides) :
    Withstands (fun _ after => AllFounded after.strides) (confirmRunning slot payload) trail := by
  unfold confirmRunning
  refine .use fun others now => .call fun rest later answer => .pure ?_
  exact (founded.plain rfl).run rfl rfl (.inl rfl)

theorem fillToken_plain (request : Request) : Confined Step.isPlain (fillToken request) := by
  unfold fillToken
  split
  · refine .bind (.step rfl) fun answer => ?_
    cases answer with
    | ok githubToken => exact .pure _
    | error reason => exact .pure _
  · exact .pure _

theorem enqueue_plain (request : Request) : Confined Step.isPlain (enqueue request) := by
  refine .bind (.step rfl) fun reply => ?_
  cases reply with
  | ok position => exact .bind (notify_plain (by simp [reportOn])) fun _ => .pure _
  | error reason =>
      cases reason with
      | queueFull capacity => exact .bind (notify_plain (by simp [reportOn])) fun _ => .pure _
      | _ => exact .pure _

theorem place_founded (founded : AllFounded trail.strides) (attempts : Nat) :
    Withstands (fun result after => AllFounded after.strides ∧
      ∀ slot, result = .ok (.claimed slot) → Claimed after.strides slot projectId)
      (place projectId sessionId attempts) trail := by
  induction attempts generalizing trail with
  | zero => exact .pure ⟨founded, by simp⟩
  | succ attempts ih =>
      unfold place
      refine .use fun others now => ?_
      have looked (reply : (PoolOp.findFree).Reply) :
          AllFounded (trail.after others now (.usePool .findFree) reply).strides :=
        founded.plain rfl
      split
      · exact .pure ⟨looked _, by simp⟩
      · refine .use fun rivals later => ?_
        split
        · next claimed =>
          rw [claimed]
          refine .pure ⟨(looked _).plain rfl, ?_⟩
          intro slot same
          cases same
          exact claimed_of_booked rfl rfl
        · exact .pure ⟨(looked _).plain rfl, by simp⟩
        · exact ih ((looked _).plain rfl)
        · exact .pure ⟨(looked _).plain rfl, by simp⟩

theorem create_founded {payload : Payload} (founded : AllFounded trail.strides) :
    Withstands (fun _ after => AllFounded after.strides) (create brokerUrl payload) trail := by
  unfold create
  split
  · exact .pure founded
  refine .use fun others now => ?_
  split
  · exact .map (confirmRunning_founded (founded.plain rfl))
  refine .look fun others now => ?_
  refine (((fillToken_plain _).founded ((founded.plain rfl).plain rfl)).and
    (fillToken_keeps _)).seq ?_
  intro request filled keeps
  obtain ⟨founded, -, project, -⟩ := keeps
  replace project : request.projectId = payload.projectId := project
  refine (place_founded founded placementAttempts).seq ?_
  intro result placed outcome
  obtain ⟨founded, claimed⟩ := outcome
  cases result with
  | ok placement =>
      cases placement with
      | held slot => exact .map (confirmRunning_founded founded)
      | claimed slot =>
          refine .use fun others now => ?_
          have still : Claimed (placed.after others now (.usePool (.withdraw payload.projectId))
              ((placed.pool.run others).perform now (.withdraw payload.projectId)).1).strides slot
              request.projectId := by
            rw [project]
            exact (claimed slot rfl).append (by simp [Trail.stride]) nofun
          refine (provision_founded (founded.plain rfl) still).seq ?_
          intro outcome after provisioned
          cases outcome with
          | ok done => exact .pure provisioned
          | error reason => exact .pure provisioned
  | error reason =>
      cases reason with
      | noSlotsAvailable => exact (enqueue_plain request).founded founded
      | _ => exact .pure founded

/-- The steps are founded, and the slot was freed after its workspace was torn down. -/
structure Vacated (trail : Trail) (freed : Option SlotId) (projectId : String) : Prop where
  founded : AllFounded trail.strides
  torn : ∀ slot, freed = some slot → TornDown trail.strides slot projectId

def serveAndReport (brokerUrl : String) (freed : Option SlotId) (report : Report)
    (conclude : Served → Consequence) : Steps Consequence := do
  let served ← serveAfter brokerUrl freed
  notify report
  return conclude served

theorem Vacated.serve {freed : Option SlotId} {report : Report} {conclude : Served → Consequence}
    (vacated : Vacated trail freed projectId) (other : report.status ≠ .running)
    (same : ∀ served, (conclude served).freed? = freed) :
    Withstands (fun result after => Vacated after result.freed? projectId)
      (serveAndReport brokerUrl freed report conclude) trail := by
  have founded : Withstands (fun _ after => AllFounded after.strides)
      (serveAndReport brokerUrl freed report conclude) trail :=
    (serveAfter_founded vacated.founded freed).seq fun served after served =>
      (Confined.bind (notify_plain other) fun _ => .pure _).founded served
  have concluded : Withstands (fun result _ => result.freed? = freed)
      (serveAndReport brokerUrl freed report conclude) trail :=
    .bind (.always fun served after => .bind (.always fun _ _ => .pure (same served)))
  cases freed with
  | none =>
      refine (founded.and concluded).mono fun result after ends => ⟨ends.1, ?_⟩
      simp [ends.2]
  | some slot =>
      have torn := (vacated.torn slot rfl).stays
        (serveAndReport brokerUrl (some slot) report conclude)
      refine ((founded.and concluded).and torn).mono fun result after ends => ⟨ends.1.1, ?_⟩
      intro other freed
      rw [ends.1.2] at freed
      cases freed
      exact ends.2

theorem release_founded {payload : Payload} (founded : AllFounded trail.strides) :
    Withstands (fun result after => Vacated after result.freed? payload.projectId)
      (release brokerUrl payload) trail := by
  unfold release
  refine (tearDown_founded founded).seq ?_
  intro slot after outcome
  cases slot with
  | none =>
      refine .use fun others now => ?_
      exact Vacated.serve ⟨outcome.1.plain rfl, by simp⟩ (by simp [reportTo]) fun _ => rfl
  | some slot => exact Vacated.serve ⟨outcome.1, outcome.2⟩ (by simp [reportTo]) fun _ => rfl

theorem pause_founded {payload : Payload} (founded : AllFounded trail.strides) :
    Withstands (fun result after => Vacated after result.freed? payload.projectId)
      (pause brokerUrl payload) trail := by
  unfold pause
  refine .use fun others now => ?_
  split
  · exact .call fun rest later answer => .pure ⟨.plain (.plain founded rfl) rfl, by
      simp [Consequence.freed?]⟩
  · next row found =>
    rw [found]
    refine .call fun rest later answer => .use fun last latest => ?_
    refine Withstands.seq (tearDown_founded (.mark (.plain (.plain founded rfl) rfl)
      (List.append_assoc _ [_] [_]) rfl ⟨_, rfl, rfl, rfl⟩)) ?_
    intro freed after outcome
    exact Vacated.serve ⟨outcome.1, outcome.2⟩ (by simp [reportTo]) fun _ => rfl

theorem create_frees_none {payload : Payload} :
    Withstands (fun result _ => ∀ consequence, result = .ok consequence →
      consequence.freed? = none) (create brokerUrl payload) trail := by
  have confirmed {slot : SlotId} {trail : Trail} :
      Withstands (fun result _ => ∀ consequence, result = .ok consequence →
        consequence.freed? = none) (.ok <$> confirmRunning slot payload :
          Steps (Except WorkflowError Consequence)) trail := by
    refine .map (.bind (.always fun _ _ => .bind (.always fun _ _ => .pure ?_)))
    simp [Consequence.freed?]
  unfold create
  split
  · exact .pure (by simp [Consequence.freed?])
  refine .use fun others now => ?_
  split
  · exact confirmed
  refine .look fun others now => .bind (.always fun request filled => ?_)
  refine .bind (.always fun result placed => ?_)
  split
  · exact confirmed
  · refine .use fun others now => ?_
    split
    · refine .bind (.always fun _ _ => .pure ?_)
      simp [Consequence.freed?]
    · refine .bind (.always fun _ _ => .pure ?_)
      simp [Consequence.freed?]
    · exact .pure (by simp)
  · exact .pure (by simp)
  · refine .use fun others now => .bind (.always fun outcome after => ?_)
    split
    · exact .pure (by simp [Consequence.freed?])
    · exact .pure (by simp)

theorem handle_founded (founded : AllFounded trail.strides) (event : Event) :
    Withstands (fun result after => AllFounded after.strides ∧ ∀ consequence slot,
      result = .ok consequence → consequence.freed? = some slot →
        TornDown after.strides slot event.payload.projectId) (handle brokerUrl event) trail := by
  have told {steps : Steps Consequence} (vacates : Withstands (fun result after =>
      Vacated after result.freed? event.payload.projectId) steps trail) :
      Withstands (fun result after => AllFounded after.strides ∧ ∀ consequence slot,
        result = .ok consequence → consequence.freed? = some slot →
          TornDown after.strides slot event.payload.projectId) (.ok <$> steps :
            Steps (Except WorkflowError Consequence)) trail := by
    refine .map (vacates.mono fun result after vacated => ⟨vacated.founded, ?_⟩)
    intro consequence slot same freed
    cases same
    exact vacated.torn slot freed
  unfold handle
  split
  · refine ((create_founded founded).and create_frees_none).mono ?_
    intro result after ends
    refine ⟨ends.1, ?_⟩
    intro consequence slot same freed
    rw [ends.2 consequence same] at freed
    contradiction
  · exact told (release_founded founded)
  · exact told (pause_founded founded)
  · refine .pure ⟨founded, ?_⟩
    intro consequence slot same freed
    cases same
    contradiction

theorem noteActivity_plain : Confined Step.isPlain (noteActivity projectId) := by
  refine .bind (.step rfl) fun holder => ?_
  cases holder with
  | none => exact .pure _
  | some slot => exact .bind (.step rfl) fun _ => .pure _

theorem pauseIdle_founded (founded : AllFounded trail.strides) (seen : Slot) :
    Withstands (fun freed after => Vacated after freed seen.projectId) (pauseIdle seen) trail := by
  unfold pauseIdle
  refine .look fun others now => .use fun before pausedAt => ?_
  split
  · exact .pure ⟨.plain (.plain founded rfl) rfl, by simp⟩
  · next granted =>
    rw [granted]
    refine .call fun between toldAt published => .call fun since clearedAt cleared => ?_
    refine .use fun later freedAt => .call fun last latest answer => .pure ⟨?_, ?_⟩
    · refine .plain (.free (.release (.plain (.plain (.plain founded rfl) rfl) rfl) ?_) rfl rfl) rfl
      exact (inCustody_of_located rfl).append (by simp [Trail.stride]) nofun
    · intro slot freed
      refine TornDown.append (tornDown_of_last rfl rfl ?_)
      exact booking?_of_freed freed

theorem pauseEach_founded (founded : AllFounded trail.strides) (seen : List Slot) :
    Withstands (fun freed after => AllFounded after.strides ∧
      ∀ slot ∈ freed, ∃ projectId, TornDown after.strides slot projectId)
      (pauseEach seen) trail := by
  induction seen generalizing trail with
  | nil => exact .pure ⟨founded, by simp⟩
  | cons first rest ih =>
      refine (pauseIdle_founded founded first).seq fun freed paused vacated => ?_
      have torn : Withstands (fun _ after => ∀ slot, freed = some slot →
          TornDown after.strides slot first.projectId) (pauseEach rest) paused := by
        cases freed with
        | none => exact .always (by simp)
        | some slot => simpa using (vacated.torn slot rfl).stays (pauseEach rest)
      refine ((ih vacated.founded).and torn).seq fun others after ends => .pure ⟨ends.1.1, ?_⟩
      intro slot member
      cases List.mem_append.mp member with
      | inl own => exact ⟨first.projectId, ends.2 slot (Option.mem_toList.mp own)⟩
      | inr other => exact ends.1.2 slot other

theorem pauseIdleSlots_founded (founded : AllFounded trail.strides) (idleTimeout : Span) :
    Withstands (fun freed after => AllFounded after.strides ∧
      ∀ slot ∈ freed, ∃ projectId, TornDown after.strides slot projectId)
      (pauseIdleSlots idleTimeout) trail :=
  .use fun _ _ => pauseEach_founded (founded.plain rfl) _

/-- Whatever an operation is answered, all its steps are founded. -/
theorem operation_founded (founded : AllFounded trail.strides) (operation : Operation) :
    Withstands (fun _ after => AllFounded after.strides) (operation.steps brokerUrl) trail := by
  cases operation with
  | handle event =>
      exact (handle_founded founded event).seq fun result after ends => .pure ends.1
  | pauseIdle idleTimeout =>
      exact (pauseIdleSlots_founded founded idleTimeout).seq fun freed after ends => .pure ends.1
  | serve => exact (serveNext_founded founded).seq fun served after ends => .pure ends
  | noteActivity projectId =>
      exact (Confined.bind noteActivity_plain fun _ => .pure _).founded founded

end WorkspacePool.Workflow
