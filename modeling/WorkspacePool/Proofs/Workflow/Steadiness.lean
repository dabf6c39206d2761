import WorkspacePool.Proofs.Workflow.Agreement

/-!
Every operation leaves the pool and its provisioner steady, whatever the clock reads and the
collaborators answer. Each procedure has one lemma, in the order in which they call each other.
-/

namespace WorkspacePool.Workflow

variable {scene : Scene} {brokerUrl : String} {slot : SlotId} {projectId : String}

theorem notify_ensures (report : Report) :
    Ensures (fun _ after => after.view = scene.view) (notify report) scene :=
  .call fun _ => .pure view_publish

theorem report_ensures {α : Type} (steady : scene.view.Steady) (report : Report) (result : α) :
    Ensures (fun _ after => after.view.Steady) (do notify report; return result) scene := by
  refine (notify_ensures report).seq fun _ after same => .pure ?_
  rw [same]
  exact steady

/-- Looking up the holder of a project changes nothing. -/
theorem holder_ensures {α : Type} {goal : α → Scene → Prop} {next : Option Slot → Steps α}
    (rest : ∀ asked, asked.view = scene.view →
      Ensures goal (next (scene.pool.holder? projectId)) asked) :
    Ensures goal (Steps.usePool (.holder projectId) >>= next) scene :=
  .use fun _ => rest _ rfl

theorem provision_ensures {request : Request}
    (claimed : scene.view.Claimed slot request.projectId request.sessionId) :
    Ensures (fun _ after => after.view.Steady) (provision brokerUrl slot request) scene := by
  unfold provision
  refine (notify_ensures _).seq fun _ told same => ?_
  rw [← same] at claimed
  refine .call fun answer => ?_
  cases answer with
  | error reason =>
      have failed := claimed.order none false
      refine .use fun now => .pure ?_
      simp only [view_afterUse, view_assign]
      exact failed.apart.freed failed.sound (failed.settled.except _) failed.served
        (Function.update_self _ _ _) (Function.update_self _ _ _) now
  | ok done =>
      have succeeded := claimed.order (some (request.projectId, request.sessionId)) true
      refine (notify_ensures _).seq fun _ after same => .pure ?_
      rw [same, view_assign]
      exact succeeded.done (Function.update_self _ _ _) (Function.update_self _ _ _)

theorem serveNext_ensures (steady : scene.view.Steady) :
    Ensures (fun _ after => after.view.Steady) (serveNext brokerUrl) scene := by
  unfold serveNext
  refine .use fun now => ?_
  rcases Pool.claimFor_cases steady.sound now scene.pool.waiting with ⟨-, result⟩ |
    ⟨-, result⟩ |
    ⟨discarded, request, rest, row, slots, queue, -, unheld, -, free, replaced, result⟩
  all_goals
    have performed : scene.pool.perform now .claimNext = _ := result
    rw [performed]
  · refine .pure ?_
    rw [view_afterUse, performed]
    exact steady
  · refine .pure ?_
    rw [view_afterUse, performed]
    exact ⟨steady.sound.keep (by simp), steady.settled.keep (by simp), steady.agrees.keep rfl⟩
  · have named : request.projectId ≠ "" := steady.sound.named request (by simp [queue])
    have claimed := steady.claimed free named unheld replaced (by simp [queue])
      (steady.sound.other_projects queue).2
    refine Ensures.seq (provision_ensures (by rwa [view_afterUse, performed])) ?_
    intro result after steady
    cases result with
    | ok => exact .pure steady
    | error reason =>
        exact report_ensures steady _ _

theorem serveAfter_ensures (steady : scene.view.Steady) (freed : Option SlotId) :
    Ensures (fun _ after => after.view.Steady) (serveAfter brokerUrl freed) scene := by
  cases freed with
  | none => exact .pure steady
  | some slot => exact serveNext_ensures steady

/-- The provisioner is told to clear the slot of a project, and the slot is freed whatever it
answers. -/
theorem release_free_ensures {α : Type} {sessionId : String} {goal : α → Scene → Prop}
    {next : Except PoolError SlotId → Steps α} (sound : scene.pool.Sound)
    (settled : scene.pool.Settled (some projectId)) (agrees : scene.view.Agrees)
    (served : scene.pool.tenant? slot = some (projectId, sessionId))
    (rest : ∀ freed after, after.view.Steady → Ensures goal (next freed) after) :
    Ensures goal (do
      let _ ← Steps.call (.release slot projectId)
      next (← Steps.usePool (.free projectId))) scene := by
  have cleared := (agrees.apart slot projectId).order none false
  refine .call fun answer => .use fun now => rest _ _ ?_
  rw [view_afterUse, view_release]
  exact cleared.freed sound settled served (Function.update_self _ _ _)
    (Function.update_self _ _ _) now

theorem tearDown_ensures (sound : scene.pool.Sound) (settled : scene.pool.Settled (some projectId))
    (agrees : scene.view.Agrees) :
    Ensures (fun _ after => after.view.Steady) (tearDown projectId) scene := by
  unfold tearDown
  refine holder_ensures fun asked same => ?_
  have samePool : asked.pool = scene.pool := congrArg View.pool same
  rw [← samePool] at sound settled ⊢
  rw [← same] at agrees
  cases holder : asked.pool.holder? projectId with
  | none =>
      exact .pure ⟨sound, settled.restore_unheld sound (sound.not_hosts holder), agrees⟩
  | some row =>
      refine release_free_ensures sound settled agrees (Pool.tenant?_of_holder? sound holder) ?_
      intro freed after steady
      cases freed with
      | ok slot => exact .pure steady
      | error reason => exact .pure steady

/-! ### Events -/

theorem confirmRunning_ensures (steady : scene.view.Steady) (slot : SlotId) (payload : Payload) :
    Ensures (fun _ after => after.view.Steady) (confirmRunning slot payload) scene := by
  unfold confirmRunning
  refine .use fun now => (notify_ensures _).seq fun _ after same => .pure ?_
  rw [same]
  exact steady.touch slot now

theorem fillToken_ensures (request : Request) :
    Ensures (fun filled after => after.view = scene.view ∧
      filled.projectId = request.projectId ∧ filled.sessionId = request.sessionId)
      (fillToken request) scene := by
  unfold fillToken
  split
  · refine .call fun answer => ?_
    cases answer with
    | ok githubToken => exact .pure ⟨view_lookUpToken, rfl, rfl⟩
    | error reason => exact .pure ⟨view_lookUpToken, rfl, rfl⟩
  · exact .pure ⟨rfl, rfl, rfl⟩

/-- What placing a project comes to: nothing has changed, or a slot was claimed. -/
theorem place_ensures {sessionId : String} (sound : scene.pool.Sound) (attempts : Nat) :
    Ensures (fun result after =>
      (after.view = scene.view ∧ ∀ slot, result ≠ .ok (.claimed slot)) ∨
      ∃ slot now pool, result = .ok (.claimed slot) ∧
        scene.pool.Effect now (.claim slot projectId sessionId) (.ok ()) pool ∧
        after.view = { scene.view with pool })
      (place projectId sessionId attempts) scene := by
  induction attempts generalizing scene with
  | zero => exact .pure (.inl ⟨rfl, by simp⟩)
  | succ attempts ih =>
      unfold place
      refine .use fun look => ?_
      simp only [Pool.perform]
      split
      · exact .pure (.inl ⟨rfl, by simp⟩)
      · next slot found =>
        refine .use fun now => ?_
        have effect : scene.pool.Effect now (.claim slot projectId sessionId) _ _ :=
          Pool.claim_effect sound
        have performed : (scene.afterUse look .findFree).pool.perform now
          (.claim slot projectId sessionId) = scene.pool.claim slot projectId sessionId now := rfl
        rw [performed]
        cases outcome : (scene.pool.claim slot projectId sessionId now).1 with
        | ok done =>
            rw [outcome] at effect
            exact .pure (.inr ⟨slot, now, _, rfl, effect, rfl⟩)
        | error reason =>
            -- The pool is as it was, so another attempt starts from the same place.
            have same : ((scene.afterUse look .findFree).afterUse now
                (.claim slot projectId sessionId)).view = scene.view := by
              rw [view_afterUse, performed, Pool.claim_refused outcome]
              rfl
            generalize (scene.afterUse look .findFree).afterUse now
              (.claim slot projectId sessionId) = tried at same ⊢
            have samePool : tried.pool = scene.pool := congrArg View.pool same
            cases reason with
            | alreadyAssigned other holder => exact .pure (.inl ⟨same, by simp⟩)
            | notFound absence =>
                refine (ih (samePool ▸ sound)).mono ?_
                rw [same, samePool]
                exact fun _ _ placed => placed
            | noSlotsAvailable | queueFull | emptyProject | invalidStatus =>
                exact .pure (.inl ⟨same, by simp⟩)

theorem enqueue_ensures {request : Request} (steady : scene.view.Steady)
    (unheld : ¬ scene.pool.Hosts request.projectId) :
    Ensures (fun _ after => after.view.Steady) (enqueue request) scene := by
  unfold enqueue
  refine .use fun now => ?_
  have waits : (scene.afterUse now (.enqueue request)).view.Steady := steady.enqueue unheld
  split
  · exact report_ensures waits _ _
  · exact report_ensures waits _ _
  · exact .pure waits

theorem create_ensures (steady : scene.view.Steady) (payload : Payload) :
    Ensures (fun _ after => after.view.Steady) (create brokerUrl payload) scene := by
  unfold create
  split
  · exact .pure steady
  refine holder_ensures fun asked unchanged => ?_
  cases holder : scene.pool.holder? payload.projectId with
  | some row => exact (confirmRunning_ensures (unchanged ▸ steady) row.id payload).map
  | none =>
      have unheld := steady.sound.not_hosts holder
      refine .look fun reading => (fillToken_ensures _).seq ?_
      rintro request filled ⟨same, sameProject, sameSession⟩
      replace same : filled.view = scene.view := same.trans unchanged
      replace sameProject : request.projectId = payload.projectId := sameProject
      replace sameSession : request.sessionId = payload.sessionId := sameSession
      rw [← same] at steady
      refine (place_ensures steady.sound placementAttempts).seq ?_
      rintro result after (⟨kept, unclaimed⟩ | ⟨slot, later, pool, rfl, effect, claimed⟩)
      · -- No slot was claimed, and the pool is as it was when the project held none.
        rw [← kept] at steady
        split
        · next slot => exact (confirmRunning_ensures steady slot payload).map
        · refine enqueue_ensures steady ?_
          have samePool : after.pool = scene.pool := congrArg View.pool (kept.trans same)
          rw [samePool, sameProject]
          exact unheld
        · exact .pure steady
        · next slot => exact absurd rfl (unclaimed slot)
      · refine .use fun latest => (provision_ensures ?_).seq ?_
        · rw [view_afterUse, sameProject, sameSession, claimed]
          have samePool : after.pool = pool := congrArg View.pool claimed
          rw [samePool]
          exact steady.claim effect
        · intro result ended steady
          cases result with
          | ok => exact .pure steady
          | error reason => exact .pure steady

theorem serveAfter_notify_ensures {α : Type} (steady : scene.view.Steady) (freed : Option SlotId)
    (report : Report) (conclude : Served → α) :
    Ensures (fun _ after => after.view.Steady) (do
      let served ← serveAfter brokerUrl freed
      notify report
      return conclude served) scene := by
  refine (serveAfter_ensures steady freed).seq fun served after steady => ?_
  exact report_ensures steady _ _

theorem release_ensures (steady : scene.view.Steady) (payload : Payload) :
    Ensures (fun _ after => after.view.Steady) (release brokerUrl payload) scene := by
  unfold release
  refine (tearDown_ensures steady.sound (steady.settled.except _) steady.agrees).seq ?_
  intro freed torn steady
  split
  · refine .use fun now => ?_
    have left : (torn.afterUse now (.withdraw payload.projectId)).view.Steady :=
      steady.withdraw payload.projectId
    exact serveAfter_notify_ensures left freed _ _
  · exact serveAfter_notify_ensures steady freed _ _

theorem pause_ensures (steady : scene.view.Steady) (payload : Payload) :
    Ensures (fun _ after => after.view.Steady) (pause brokerUrl payload) scene := by
  unfold pause
  refine holder_ensures fun asked unchanged => ?_
  cases holder : scene.pool.holder? payload.projectId with
  | none => exact report_ensures (unchanged ▸ steady) _ _
  | some row =>
      refine (notify_ensures _).seq fun _ told same => .use fun later => ?_
      replace same := same.trans unchanged
      have samePool : told.pool = scene.pool := congrArg View.pool same
      rw [← samePool] at holder
      rw [← same] at steady
      have served := Pool.tenant?_of_holder? steady.sound holder
      have effect := Pool.perform_effect steady.sound later (.mark row.id .paused)
      have sound := effect.sound steady.sound
      obtain ⟨settled, agrees⟩ := steady.adjust Pool.mark_adjusted served
      -- The mark is the project's own, and the slot is freed next.
      have marked : (told.afterUse later (.mark row.id .paused)).view.Agrees := agrees
      refine (tearDown_ensures sound settled marked).seq ?_
      intro freed torn steady
      exact serveAfter_notify_ensures steady freed _ _

theorem handle_ensures (steady : scene.view.Steady) (event : Event) :
    Ensures (fun _ after => after.view.Steady) (handle brokerUrl event) scene := by
  unfold handle
  split
  · exact create_ensures steady event.payload
  · exact (release_ensures steady event.payload).map
  · exact (pause_ensures steady event.payload).map
  · exact .pure steady

/-! ### Upkeep -/

theorem noteActivity_ensures (steady : scene.view.Steady) (projectId : String) :
    Ensures (fun _ after => after.view.Steady) (noteActivity projectId) scene := by
  unfold noteActivity
  refine holder_ensures fun asked unchanged => ?_
  rw [← unchanged] at steady
  cases scene.pool.holder? projectId with
  | none => exact .pure steady
  | some row => exact .use fun now => .pure (steady.touch row.id now)

theorem pauseIdle_ensures (steady : scene.view.Steady) (seen : Slot) :
    Ensures (fun _ after => after.view.Steady) (pauseIdle seen) scene := by
  unfold pauseIdle
  refine .look fun reading => .use fun now => ?_
  have performed : scene.afterReading.pool.perform now (.pauseIfHeld seen.id seen.projectId) =
    scene.pool.pauseIfHeld seen.id seen.projectId := rfl
  have sound : scene.pool.Sound := steady.sound
  have effect := Pool.perform_effect sound now (.pauseIfHeld seen.id seen.projectId)
  have soundAfter : (scene.pool.pauseIfHeld seen.id seen.projectId).2.Sound := effect.sound sound
  have viewed : (scene.afterReading.afterUse now (.pauseIfHeld seen.id seen.projectId)).view =
    { scene.view with pool := (scene.pool.pauseIfHeld seen.id seen.projectId).2 } := rfl
  generalize scene.afterReading.afterUse now (.pauseIfHeld seen.id seen.projectId) = tried
    at viewed ⊢
  rw [performed]
  rcases Pool.pauseIfHeld_cases sound seen.id seen.projectId with ⟨reason, result⟩ |
    ⟨pool, session, result, adjusted, served⟩
  · rw [result] at viewed ⊢
    refine .pure ?_
    rw [viewed]
    exact steady
  · rw [result] at viewed soundAfter ⊢
    obtain ⟨settled, agrees⟩ := steady.adjust adjusted served
    refine (notify_ensures _).seq fun _ told same => ?_
    replace same : told.view = { scene.view with pool } := same.trans viewed
    have samePool : told.pool = pool := congrArg View.pool same
    rw [← samePool] at soundAfter settled
    rw [← same] at agrees
    have stillServed : told.pool.tenant? seen.id = some (seen.projectId, session) := by
      rw [samePool, adjusted.tenant?_eq sound]
      exact served
    refine release_free_ensures soundAfter settled agrees stillServed ?_
    intro freed after steady
    exact report_ensures steady _ _

theorem pauseEach_ensures (steady : scene.view.Steady) (seen : List Slot) :
    Ensures (fun _ after => after.view.Steady) (pauseEach seen) scene := by
  induction seen generalizing scene with
  | nil => exact .pure steady
  | cons slot rest ih =>
      refine (pauseIdle_ensures steady slot).seq fun freed paused steady => ?_
      exact (ih steady).seq fun others after steady => .pure steady

theorem pauseIdleSlots_ensures (steady : scene.view.Steady) (idleTimeout : Span) :
    Ensures (fun _ after => after.view.Steady) (pauseIdleSlots idleTimeout) scene := by
  refine .use fun now => ?_
  have unchanged : (scene.afterUse now (.idleRunning idleTimeout)).view = scene.view := rfl
  exact pauseEach_ensures (unchanged ▸ steady) _

theorem operation_ensures (operation : Operation) (steady : scene.view.Steady) :
    Ensures (fun _ after => after.view.Steady) (operation.steps brokerUrl) scene := by
  cases operation with
  | handle event => exact (handle_ensures steady event).seq fun _ _ steady => .pure steady
  | pauseIdle idleTimeout =>
      exact (pauseIdleSlots_ensures steady idleTimeout).seq fun _ _ steady => .pure steady
  | serve => exact (serveNext_ensures steady).seq fun _ _ steady => .pure steady
  | noteActivity projectId =>
      exact (noteActivity_ensures steady projectId).seq fun _ _ steady => .pure steady

/-! ### All operations -/

/-- A new pool has no tenants, and its provisioner was told nothing. -/
theorem fresh_steady (slotCount : UInt32) (capacity : Nat) (start : Millis) :
    (Scene.fresh slotCount capacity start).view.Steady := by
  have empty := Pool.create_tenant? slotCount capacity start
  have vacant : ∀ projectId, ¬ (Pool.create slotCount capacity start).Hosts projectId := by
    simp [Pool.Hosts, empty]
  refine ⟨Pool.create_sound slotCount capacity start, ⟨?_, ?_⟩, ⟨funext empty, ?_⟩⟩
  · simp [Scene.fresh, Scene.view, Pool.create]
  · intro slot member busy
    obtain ⟨index, -, rfl⟩ := List.mem_map.mp member
    simp [Slot.free] at busy
  · intro projectId
    have unserved : (Scene.fresh slotCount capacity start).serves projectId = false := by
      simp [Scene.fresh, Scene.serves, Scene.lastNaming?, Scene.orders, last?]
    exact ⟨fun served => by simp [Scene.view, unserved] at served,
      fun hosted => absurd hosted (vacant projectId)⟩

/-- After any operations on a new pool, each run to its end, and whatever the clock read and the
collaborators answered: who holds a slot does not wait, every slot that is held runs, a slot is held
by the project and session that it was last set up for with success, and a project holds a slot
exactly when it was last set up with success. -/
theorem runAll_agrees_with_provisioner (slotCount : UInt32) (capacity : Nat) (start : Millis)
    (brokerUrl : String) (around : Surroundings) (operations : List Operation) :
    let scene := (Scene.fresh slotCount capacity start).runAll around brokerUrl operations
    (∀ slot ∈ scene.pool.slots, ∀ request ∈ scene.pool.waiting,
      slot.holds request.projectId = false) ∧
    (∀ slot ∈ scene.pool.slots, slot.isBusy = true → slot.status = .running) ∧
    (∀ id projectId sessionId,
      (∃ slot ∈ scene.pool.slots, slot.id = id ∧ slot.holds projectId = true ∧
        slot.sessionId = sessionId) ↔
      ∃ assignment, scene.lastOn? .slotPool id = some ⟨.assign id assignment, true⟩ ∧
        assignment.projectId = projectId ∧ assignment.sessionId = sessionId) ∧
    (∀ slot ∈ scene.pool.slots, slot.isBusy = false →
      scene.lastOn? .slotPool slot.id = none ∨
      (∃ succeeded, scene.lastOn? .slotPool slot.id = some ⟨.release slot.id, succeeded⟩) ∨
      ∃ assignment, scene.lastOn? .slotPool slot.id = some ⟨.assign slot.id assignment, false⟩) ∧
    ∀ projectId, (∃ slot ∈ scene.pool.slots, slot.holds projectId = true) ↔
      ∃ gitRepoUrl, scene.lastNaming? .perProject projectId =
        some ⟨.provision projectId gitRepoUrl, true⟩ := by
  intro scene
  have steady : scene.view.Steady :=
    Scene.runAll_keeps (fun operation _ steady => operation_ensures operation steady) around
      (fresh_steady slotCount capacity start) operations
  have sound : scene.pool.Sound := steady.sound
  have slots : ∀ id, scene.pool.tenant? id = scene.tenancy id := congrFun steady.agrees.slots
  refine ⟨?_, ?_, ?_, ?_, ?_⟩
  · intro slot member request waits
    by_contra held
    have hosted := sound.hosts_iff.mpr ⟨slot, member, by simpa using held⟩
    exact steady.settled.apart request waits (by simp) hosted
  · intro slot member busy
    exact steady.settled.runs slot member busy (by simp)
  · intro id projectId sessionId
    rw [← Pool.tenant?_eq_some_iff sound, slots, tenancy_eq_some_iff]
  · intro slot member free
    refine lastOn?_of_vacant ?_
    rw [← slots]
    exact Pool.tenant?_of_free sound member free
  · intro projectId
    rw [← sound.hosts_iff, ← serves_iff]
    exact (steady.agrees.projects projectId).symm

end WorkspacePool.Workflow
