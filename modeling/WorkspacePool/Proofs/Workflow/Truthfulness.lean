import WorkspacePool.Proofs.Workflow.Reports

/-!
Every operation leaves every project told what fits, whatever the clock reads and the collaborators
answer. Each procedure has one lemma, in the order in which they call each other; the requester and
a project that is served from the queue are away from the rule in turn.
-/

namespace WorkspacePool.Workflow

variable {scene : Scene} {brokerUrl : String} {slot : SlotId} {projectId : String}
  {away : Set String}

theorem notify_tells (report : Report) :
    Ensures (fun _ after => after.pool = scene.pool ∧
      after.told = Function.update scene.told report.projectId (some report.status))
      (notify report) scene :=
  .call fun answer => .pure ⟨rfl, told_publish report answer⟩

/-- A call that publishes nothing leaves everybody told what they were told. -/
theorem unreported_call {α : Type} {goal : α → Scene → Prop} {call : Call}
    {next : call.Answer → Steps α} (unreported : ∀ answer, Exchange.report? ⟨call, answer⟩ = none)
    (rest : ∀ answer asked, asked.pool = scene.pool → asked.told = scene.told →
      Ensures goal (next answer) asked) : Ensures goal (Steps.call call >>= next) scene :=
  .call fun answer => rest answer _ rfl (told_of_no_report (unreported answer))

/-- A report that fits is the last step of an operation. -/
theorem report_informs {α : Type} {report : Report} {result : α}
    (informed : Informed scene.pool scene.told (insert report.projectId away))
    (fits : Fits scene.pool report.projectId (some report.status)) :
    Ensures (fun _ after => Informed after.pool after.told away)
      (do notify report; return result) scene := by
  refine (notify_tells report).seq ?_
  rintro _ after ⟨samePool, sameTold⟩
  refine .pure ?_
  rw [samePool, sameTold]
  exact informed.report fits

/-- The project that is away, and gone, is told so. -/
theorem report_gone {α : Type} {report : Report} {result : α}
    (rests : Rests scene.pool scene.told {report.projectId})
    (gone : report.status ≠ .running ∧ report.status ≠ .queued ∧ report.status ≠ .pausing) :
    Ensures (fun _ after => Rests after.pool after.told ∅)
      (do notify report; return result) scene := by
  have absent := rests.absent report.projectId rfl
  refine (report_informs ?_ (fits_absent absent gone)).mono fun _ _ informed => informed.rests
  simpa using rests.toInformed

theorem provision_informs {request : Request}
    (informed : Informed scene.pool scene.told (insert request.projectId away))
    (absent : ∀ other, other ∈ away → scene.pool.Absent other)
    (hosted : scene.pool.Hosts request.projectId)
    (unqueued : ¬ scene.pool.Waits request.projectId) :
    Ensures (fun result after => Rests after.pool after.told away ∧
      ∀ reason, result = .error reason → after.pool.Absent request.projectId)
      (provision brokerUrl slot request) scene := by
  unfold provision
  refine (notify_tells _).seq ?_
  rintro _ told ⟨samePool, sameTold⟩
  refine unreported_call (fun _ => rfl) fun answer asked keptPool keptTold => ?_
  replace samePool : asked.pool = scene.pool := keptPool.trans samePool
  replace sameTold : asked.told =
      Function.update scene.told request.projectId (some .provisioning) := keptTold.trans sameTold
  replace informed : Informed asked.pool asked.told (insert request.projectId away) := by
    rw [samePool, sameTold]
    exact informed.tell (Set.mem_insert _ _)
  rw [← samePool] at absent hosted unqueued
  cases answer with
  | error reason =>
      refine .use fun now => .pure ?_
      obtain ⟨freed, unheld, others, waits⟩ := informed.free (Set.mem_insert _ _) hosted now
      have gone : (asked.pool.free request.projectId now).2.Absent request.projectId :=
        ⟨unheld, mt (waits request.projectId).mp unqueued⟩
      refine ⟨⟨freed.rejoin ?_ (Set.Subset.refl _), ?_⟩, fun _ _ => gone⟩
      · rw [sameTold, Function.update_self]
        exact fits_absent gone (by simp)
      · intro other inside
        have before := absent other inside
        have different : other ≠ request.projectId := fun same => before.unheld (same ▸ hosted)
        exact ⟨mt (others other different).mp before.unheld,
          mt (waits other).mp before.unqueued⟩
  | ok done =>
      refine (notify_tells _).seq ?_
      rintro _ after ⟨lastPool, lastTold⟩
      refine .pure ⟨?_, by simp⟩
      rw [lastPool, lastTold]
      exact ⟨informed.report (fits_running hosted unqueued), absent⟩

theorem serveNext_informs (rests : Rests scene.pool scene.told away) :
    Ensures (fun _ after => Rests after.pool after.told away) (serveNext brokerUrl) scene := by
  unfold serveNext
  refine .use fun now => ?_
  have effect : scene.pool.Effect now .claimNext (scene.pool.perform now .claimNext).1
      (scene.afterUse now .claimNext).pool := Pool.claimNext_effect rests.sound
  split
  · next nobody =>
    rw [nobody] at effect
    exact .pure (rests.serveNobody effect)
  · next slot request served =>
    rw [served] at effect
    obtain ⟨informed, absent, hosted, unqueued⟩ := rests.serve effect
    refine (provision_informs informed absent hosted unqueued).seq ?_
    rintro result after ⟨rests, dropped⟩
    cases result with
    | ok => exact .pure rests
    | error reason =>
        have gone := dropped reason rfl
        refine (notify_tells _).seq ?_
        rintro _ last ⟨samePool, sameTold⟩
        refine .pure ?_
        rw [samePool, sameTold]
        refine ⟨Informed.report ?_ (fits_absent gone (by simp [reportOn])), rests.absent⟩
        exact rests.toInformed.widen (Set.subset_insert _ _)

theorem serveAfter_informs (rests : Rests scene.pool scene.told away) (freed : Option SlotId) :
    Ensures (fun _ after => Rests after.pool after.told away) (serveAfter brokerUrl freed)
      scene := by
  cases freed with
  | none => exact .pure rests
  | some slot => exact serveNext_informs rests

/-- What is left of giving up a slot: the queue is served, and the project is told. -/
theorem serveAfter_report_informs {α : Type} {report : Report} (conclude : Served → α)
    (rests : Rests scene.pool scene.told {report.projectId}) (freed : Option SlotId)
    (gone : report.status ≠ .running ∧ report.status ≠ .queued ∧ report.status ≠ .pausing) :
    Ensures (fun _ after => Rests after.pool after.told ∅) (do
      let served ← serveAfter brokerUrl freed
      notify report
      return conclude served) scene := by
  refine (serveAfter_informs rests freed).seq fun served after rests => ?_
  exact report_gone rests gone

/-- A slot is cleared and freed, whatever its provisioner answers. -/
theorem release_free_informs {α : Type} {goal : α → Scene → Prop}
    {next : Except PoolError SlotId → Steps α}
    (informed : Informed scene.pool scene.told {projectId}) (hosted : scene.pool.Hosts projectId)
    (unqueued : ¬ scene.pool.Waits projectId)
    (rest : ∀ freed after, Rests after.pool after.told {projectId} →
      Ensures goal (next (.ok freed)) after) :
    Ensures goal (do
      let _ ← Steps.call (.release slot projectId)
      next (← Steps.usePool (.free projectId))) scene := by
  refine unreported_call (fun _ => rfl) fun answer asked samePool sameTold => .use fun now => ?_
  rw [← samePool, ← sameTold] at informed
  rw [← samePool] at hosted unqueued
  obtain ⟨place, freed⟩ := Pool.free_hosted informed.sound hosted now
  obtain ⟨left, unheld, -, waits⟩ := informed.free rfl hosted now
  have reply : (asked.pool.perform now (.free projectId)).1 = .ok place := freed
  rw [reply]
  refine rest place _ ⟨left, ?_⟩
  rintro other rfl
  exact ⟨unheld, mt (waits other).mp unqueued⟩

theorem tearDown_hosted (informed : Informed scene.pool scene.told {projectId})
    (hosted : scene.pool.Hosts projectId) (unqueued : ¬ scene.pool.Waits projectId) :
    Ensures (fun freed after => freed.isSome = true ∧ Rests after.pool after.told {projectId})
      (tearDown projectId) scene := by
  unfold tearDown
  refine .use fun _ => ?_
  cases holder : scene.pool.holder? projectId with
  | none => exact absurd hosted (informed.sound.not_hosts holder)
  | some row =>
      simp only [Pool.perform, holder]
      exact release_free_informs informed hosted unqueued fun freed after rests =>
        .pure ⟨rfl, rests⟩

theorem tearDown_unheld (unheld : scene.pool.holder? projectId = none) :
    Ensures (fun freed after => freed = none ∧ after.pool = scene.pool ∧ after.told = scene.told)
      (tearDown projectId) scene := by
  unfold tearDown
  refine .use fun _ => ?_
  simp only [Pool.perform, unheld]
  exact .pure ⟨rfl, rfl, rfl⟩

/-! ### Events -/

theorem confirmRunning_informs (informed : Informed scene.pool scene.told ∅) (payload : Payload)
    (hosted : scene.pool.Hosts payload.projectId) (slot : SlotId) :
    Ensures (fun _ after => Rests after.pool after.told ∅) (confirmRunning slot payload) scene := by
  unfold confirmRunning
  refine .use fun now => ?_
  have effect := Pool.perform_effect informed.sound now (.touch slot)
  have quiet : (PoolOp.touch slot).IsQuiet (scene.pool.perform now (.touch slot)).1 := trivial
  have still := still_of_quiet effect informed.sound (by simp) quiet
  replace informed := informed.still effect still
  have unqueued := (informed.fits payload.projectId (Set.notMem_empty _)).apart
  refine (report_informs (informed.widen (Set.empty_subset _)) ?_).mono
    fun _ _ informed => informed.rests
  have stillHosted := (still.hosts payload.projectId).mpr hosted
  exact fits_running stillHosted (unqueued stillHosted)

theorem fillToken_tells (request : Request) :
    Ensures (fun filled after => after.pool = scene.pool ∧ after.told = scene.told ∧
      filled.projectId = request.projectId ∧ filled.sessionId = request.sessionId)
      (fillToken request) scene := by
  unfold fillToken
  split
  · refine unreported_call (fun _ => rfl) fun answer asked samePool sameTold => ?_
    cases answer with
    | ok githubToken => exact .pure ⟨samePool, sameTold, rfl, rfl⟩
    | error reason => exact .pure ⟨samePool, sameTold, rfl, rfl⟩
  · exact .pure ⟨rfl, rfl, rfl, rfl⟩

/-- A project that holds no slot is placed at the first attempt, if a slot is free. -/
theorem place_informs {sessionId : String} (sound : scene.pool.Sound) (named : projectId ≠ "")
    (unheld : ¬ scene.pool.Hosts projectId) (attempts : Nat) :
    Ensures (fun result after => after.told = scene.told ∧
      ((result = .error .noSlotsAvailable ∧ after.pool = scene.pool) ∨
        ∃ slot now, result = .ok (.claimed slot) ∧
          scene.pool.Effect now (.claim slot projectId sessionId) (.ok ()) after.pool))
      (place projectId sessionId attempts) scene := by
  cases attempts with
  | zero => exact .pure ⟨rfl, .inl ⟨rfl, rfl⟩⟩
  | succ attempts =>
      unfold place
      refine .use fun _ => ?_
      simp only [Pool.perform, Pool.findFree]
      cases shown : scene.pool.firstFree? with
      | none => exact .pure ⟨rfl, .inl ⟨rfl, rfl⟩⟩
      | some slot =>
          refine .use fun now => ?_
          have granted := Pool.claim_shown sound shown named unheld sessionId now
          have effect : scene.pool.Effect now (.claim slot projectId sessionId) _ _ :=
            Pool.claim_effect sound
          rw [granted] at effect
          simp only [Pool.perform, Scene.afterUse, granted]
          exact .pure ⟨rfl, .inr ⟨slot, now, rfl, effect⟩⟩

theorem enqueue_informs {request : Request} (informed : Informed scene.pool scene.told ∅)
    (unheld : ¬ scene.pool.Hosts request.projectId) :
    Ensures (fun _ after => Rests after.pool after.told ∅) (enqueue request) scene := by
  unfold enqueue
  refine .use fun now => ?_
  have effect : scene.pool.Effect now (.enqueue request)
      (scene.pool.perform now (.enqueue request)).1 (scene.afterUse now (.enqueue request)).pool :=
    Pool.enqueue_effect
  split
  · next position accepted =>
    rw [accepted] at effect
    have hosts := fun other => effect.hosts_iff informed.sound other
    have waits := fun other => effect.waits_iff informed.sound (by simp) other
    simp only [PoolOp.booking?, PoolOp.handed, PoolOp.accepted?, List.not_mem_nil, false_implies,
      implies_true, and_true, Option.some.injEq] at hosts waits
    have left : Informed (scene.afterUse now (.enqueue request)).pool scene.told
        (insert request.projectId ∅) := by
      refine informed.use effect (Set.empty_subset _) ?_
      intro other outside
      have different : request.projectId ≠ other := fun same => outside (same ▸ Set.mem_insert _ _)
      exact ⟨hosts other, by simp [waits, different]⟩
    refine (report_informs left ?_).mono fun _ _ informed => informed.rests
    exact fits_queued (mt (hosts _).mp unheld) ((waits _).mpr (.inr rfl))
  · next capacity full =>
    obtain ⟨same, unqueued⟩ := Pool.enqueue_full full
    have samePool : (scene.afterUse now (.enqueue request)).pool = scene.pool := same
    refine (report_informs ?_ ?_).mono fun _ _ informed => informed.rests
    · rw [samePool]
      exact informed.widen (Set.empty_subset _)
    · rw [samePool]
      exact fits_absent ⟨unheld, unqueued⟩ (by simp [reportOn])
  · next reason refused =>
    rw [refused] at effect
    have still := still_of_quiet effect informed.sound (by simp) trivial
    exact .pure (informed.still effect still).rests

theorem create_informs (informed : Informed scene.pool scene.told ∅) (payload : Payload) :
    Ensures (fun _ after => Rests after.pool after.told ∅) (create brokerUrl payload) scene := by
  unfold create
  split
  · exact .pure informed.rests
  next named =>
  replace named : payload.projectId ≠ "" := by simpa using named
  refine .use fun _ => ?_
  simp only [Pool.perform]
  cases holder : scene.pool.holder? payload.projectId with
  | some row =>
      have hosted : scene.pool.Hosts payload.projectId :=
        ⟨_, _, Pool.tenant?_of_holder? informed.sound holder⟩
      exact (confirmRunning_informs (by exact informed) payload hosted row.id).map
  | none =>
      have unheld := informed.sound.not_hosts holder
      refine .look fun reading => (fillToken_tells _).seq ?_
      rintro request filled ⟨samePool, sameTold, sameProject, sameSession⟩
      replace samePool : filled.pool = scene.pool := samePool
      replace sameTold : filled.told = scene.told := sameTold
      replace sameProject : request.projectId = payload.projectId := sameProject
      rw [← samePool, ← sameTold] at informed
      rw [← samePool] at unheld
      refine (place_informs informed.sound named unheld placementAttempts).seq ?_
      rintro result after ⟨keptTold, ⟨rfl, keptPool⟩ | ⟨slot, now, rfl, effect⟩⟩
      · refine enqueue_informs ?_ ?_
        · rw [keptPool, keptTold]
          exact informed
        · rw [keptPool, sameProject]
          exact unheld
      · obtain ⟨claimed, hosted⟩ := informed.claim effect
        obtain ⟨alone, hosts, unqueued⟩ := claimed.withdraw (Set.mem_insert _ _)
        have left : Informed (after.pool.withdraw payload.projectId).2 after.told
            (insert request.projectId ∅) := by
          rw [keptTold, sameProject]
          exact alone
        refine .use fun latest => (provision_informs left (by simp) ?_ ?_).seq ?_
        · rw [sameProject]
          exact (hosts payload.projectId).mpr hosted
        · rw [sameProject]
          exact unqueued
        · rintro outcome ended ⟨rests, -⟩
          cases outcome with
          | ok => exact .pure rests
          | error reason => exact .pure rests

theorem release_informs (informed : Informed scene.pool scene.told ∅) (payload : Payload) :
    Ensures (fun _ after => Rests after.pool after.told ∅) (release brokerUrl payload) scene := by
  unfold release
  have apart := (informed.fits payload.projectId (Set.notMem_empty _)).apart
  have wide : Informed scene.pool scene.told {payload.projectId} :=
    informed.widen (Set.empty_subset _)
  cases holder : scene.pool.holder? payload.projectId with
  | some row =>
      have hosted : scene.pool.Hosts payload.projectId :=
        ⟨_, _, Pool.tenant?_of_holder? informed.sound holder⟩
      refine (tearDown_hosted wide hosted (apart hosted)).seq ?_
      rintro freed torn ⟨isSome, rests⟩
      simp only [Option.isNone_eq_false_iff.mpr isSome, Bool.false_eq_true, ↓reduceIte]
      exact serveAfter_report_informs _ rests freed (by simp [reportTo])
  | none =>
      have unheld := informed.sound.not_hosts holder
      refine (tearDown_unheld holder).seq ?_
      rintro freed torn ⟨rfl, samePool, sameTold⟩
      rw [← samePool, ← sameTold] at wide
      rw [← samePool] at unheld
      obtain ⟨left, hosts, unqueued⟩ := wide.withdraw rfl
      refine .use fun now => serveAfter_report_informs _ ⟨left, ?_⟩ none (by simp [reportTo])
      rintro other rfl
      exact ⟨mt (hosts payload.projectId).mp unheld, unqueued⟩

theorem pause_informs (informed : Informed scene.pool scene.told ∅) (payload : Payload) :
    Ensures (fun _ after => Rests after.pool after.told ∅) (pause brokerUrl payload) scene := by
  unfold pause
  refine .use fun _ => ?_
  simp only [Pool.perform]
  have apart := (informed.fits payload.projectId (Set.notMem_empty _)).apart
  have wide : Informed scene.pool scene.told {payload.projectId} :=
    informed.widen (Set.empty_subset _)
  cases holder : scene.pool.holder? payload.projectId with
  | none =>
      have wider : Informed scene.pool scene.told (insert payload.projectId ∅) :=
        informed.widen (Set.empty_subset _)
      exact (report_informs wider (fits_paused (informed.sound.not_hosts holder))).mono
        fun _ _ informed => informed.rests
  | some row =>
      have hosted : scene.pool.Hosts payload.projectId :=
        ⟨_, _, Pool.tenant?_of_holder? informed.sound holder⟩
      refine (notify_tells _).seq ?_
      rintro _ told ⟨samePool, sameTold⟩
      replace samePool : told.pool = scene.pool := samePool
      replace sameTold : told.told =
        Function.update scene.told payload.projectId (some .pausing) := sameTold
      refine .use fun now => ?_
      have effect : told.pool.Effect now (.mark row.id .paused) _ _ := Pool.mark_effect
      replace wide : Informed told.pool told.told {payload.projectId} := by
        rw [samePool, sameTold]
        exact wide.tell rfl
      rw [← samePool] at hosted apart
      have still := still_of_quiet effect wide.sound (by simp) trivial
      have marked := wide.still effect still
      refine Ensures.seq (tearDown_hosted marked ((still.hosts _).mpr hosted)
        (mt (still.waits _).mp (apart hosted))) ?_
      rintro freed torn ⟨-, rests⟩
      exact serveAfter_report_informs _ rests freed (by simp [reportTo])

theorem handle_informs (informed : Informed scene.pool scene.told ∅) (event : Event) :
    Ensures (fun _ after => Rests after.pool after.told ∅) (handle brokerUrl event) scene := by
  unfold handle
  split
  · exact create_informs informed event.payload
  · exact (release_informs informed event.payload).map
  · exact (pause_informs informed event.payload).map
  · exact .pure informed.rests

/-! ### Upkeep -/

theorem noteActivity_informs (informed : Informed scene.pool scene.told ∅) (projectId : String) :
    Ensures (fun _ after => Rests after.pool after.told ∅) (noteActivity projectId) scene := by
  unfold noteActivity
  refine .use fun _ => ?_
  split
  · exact .pure informed.rests
  · next row found =>
    refine .use fun now => .pure ?_
    have effect := Pool.perform_effect informed.sound now (.touch row.id)
    have quiet : (PoolOp.touch row.id).IsQuiet (scene.pool.perform now (.touch row.id)).1 := trivial
    exact (informed.still effect (still_of_quiet effect informed.sound (by simp) quiet)).rests

theorem pauseIdle_informs (informed : Informed scene.pool scene.told ∅) (seen : Slot) :
    Ensures (fun _ after => Rests after.pool after.told ∅) (pauseIdle seen) scene := by
  unfold pauseIdle
  refine .look fun reading => .use fun now => ?_
  have effect : scene.pool.Effect now (.pauseIfHeld seen.id seen.projectId) _ _ :=
    Pool.pauseIfHeld_effect
  have still := still_of_quiet effect informed.sound (by simp) trivial
  have paused := informed.still effect still
  have apart := (paused.fits seen.projectId (Set.notMem_empty _)).apart
  split
  · exact .pure paused.rests
  · next allowed =>
    obtain ⟨session, served⟩ : ∃ session,
        scene.pool.tenant? seen.id = some (seen.projectId, session) := by
      rcases Pool.pauseIfHeld_cases informed.sound seen.id seen.projectId with ⟨reason, refused⟩ |
        ⟨after, session, -, -, served⟩
      · have both := (congrArg Prod.fst refused).symm.trans allowed
        contradiction
      · exact ⟨session, served⟩
    have hosted := (still.hosts seen.projectId).mpr ⟨seen.id, session, served⟩
    refine (notify_tells _).seq ?_
    rintro _ told ⟨samePool, sameTold⟩
    have away : Informed told.pool told.told {seen.projectId} := by
      rw [samePool, sameTold]
      exact (paused.widen (Set.empty_subset _)).tell rfl
    refine release_free_informs away ?_ ?_ ?_
    · rw [samePool]
      exact hosted
    · rw [samePool]
      exact apart hosted
    · intro freed after rests
      exact report_gone rests (by simp [reportOf])

theorem pauseEach_informs (informed : Informed scene.pool scene.told ∅) (seen : List Slot) :
    Ensures (fun _ after => Rests after.pool after.told ∅) (pauseEach seen) scene := by
  induction seen generalizing scene with
  | nil => exact .pure informed.rests
  | cons slot rest ih =>
      refine (pauseIdle_informs informed slot).seq fun freed paused rests => ?_
      exact (ih rests.toInformed).seq fun others after rests => .pure rests

theorem operation_informs (operation : Operation) (rests : Rests scene.pool scene.told ∅) :
    Ensures (fun _ after => Rests after.pool after.told ∅) (operation.steps brokerUrl) scene := by
  have informed := rests.toInformed
  cases operation with
  | handle event => exact (handle_informs informed event).seq fun _ _ rests => .pure rests
  | pauseIdle idleTimeout =>
      refine .bind (.use fun now => ?_)
      exact (pauseEach_informs (by exact informed) _).mono fun _ _ rests => .pure rests
  | serve => exact (serveNext_informs rests).seq fun _ _ rests => .pure rests
  | noteActivity projectId =>
      exact (noteActivity_informs informed projectId).seq fun _ _ rests => .pure rests

/-! ### All operations -/

theorem fresh_rests (slotCount : UInt32) (capacity : Nat) (start : Millis) :
    Rests (Scene.fresh slotCount capacity start).pool
      (Scene.fresh slotCount capacity start).told ∅ := by
  refine ⟨⟨Pool.create_sound slotCount capacity start, ?_⟩, by simp⟩
  intro projectId _
  have unheld : ¬ (Pool.create slotCount capacity start).Hosts projectId := by
    simp [Pool.Hosts, Pool.create_tenant? slotCount capacity start]
  refine ⟨fun held => absurd held unheld, ?_, fun _ => ?_⟩
  · simp [Pool.Waits, Scene.fresh, Pool.create]
  · simp [Scene.told, Scene.reports, Scene.fresh, last?]

/-- After any operations on a new pool, each run to its end, and whatever the clock read and the
collaborators answered, the last report on a project tells where it is: it holds a slot exactly when
it was told that it runs; who was told to be queued waits, and who waits was told to be queued or
paused; who was told to be provisioned, failed or released neither holds a slot nor waits; and
nobody is left with the report that a pause has begun. -/
theorem runAll_reports_truthfully (slotCount : UInt32) (capacity : Nat) (start : Millis)
    (brokerUrl : String) (around : Surroundings) (operations : List Operation) :
    let scene := (Scene.fresh slotCount capacity start).runAll around brokerUrl operations
    ∀ projectId,
      ((∃ slot ∈ scene.pool.slots, slot.holds projectId = true) ↔
        scene.told projectId = some .running) ∧
      (scene.told projectId = some .queued →
        ∃ request ∈ scene.pool.waiting, request.projectId = projectId) ∧
      ((∃ request ∈ scene.pool.waiting, request.projectId = projectId) →
        scene.told projectId = some .queued ∨ scene.told projectId = some .paused) ∧
      (scene.told projectId = some .provisioning ∨ scene.told projectId = some .failed ∨
          scene.told projectId = some .released →
        (∀ slot ∈ scene.pool.slots, slot.holds projectId = false) ∧
          ∀ request ∈ scene.pool.waiting, request.projectId ≠ projectId) ∧
      scene.told projectId ≠ some .pausing := by
  intro scene projectId
  have rests : Rests scene.pool scene.told ∅ :=
    Scene.runAll_keeps (fun operation _ rests => operation_informs operation rests) around
      (fresh_rests slotCount capacity start) operations
  have fits := rests.fits projectId (Set.notMem_empty _)
  have nobody : (∀ slot ∈ scene.pool.slots, slot.holds projectId = false) ↔
      ¬ scene.pool.Hosts projectId := by
    rw [← rests.sound.holder?_eq_none_iff_not_hosts, Pool.holder?_eq_none_iff]
  have unqueued : (∀ request ∈ scene.pool.waiting, request.projectId ≠ projectId) ↔
      ¬ scene.pool.Waits projectId := by
    simp [Pool.Waits]
  rw [← rests.sound.hosts_iff, nobody, unqueued]
  change (scene.pool.Hosts projectId ↔ _) ∧ (_ → scene.pool.Waits projectId) ∧
    (scene.pool.Waits projectId → _) ∧ _
  rcases fits.cases with ⟨held, waitsNot, told⟩ | ⟨unheld, waits, told | told⟩ |
    ⟨unheld, waitsNot, notRunning, notQueued, notPausing⟩
  · simp [held, waitsNot, told]
  · simp [unheld, waits, told]
  · simp [unheld, waits, told]
  · simp [unheld, waitsNot, notRunning, notQueued, notPausing]

end WorkspacePool.Workflow
