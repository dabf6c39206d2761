import WorkspacePool.Proofs.Pool.Frame
import WorkspacePool.Proofs.Workflow.Settlement
import WorkspacePool.Proofs.Workflow.Truthfulness

/-!
What a create leaves behind when it fails. The slot that it claimed is free again and shows another
time of its last activity. The request with which the project waited before, if it did, has left the
queue when the slot was claimed, and nothing puts it back.
-/

namespace WorkspacePool

variable {slots : List Slot} {slot : Slot} {projectId sessionId : String}

theorem Slot.Consistent.eq_free (consistent : slot.Consistent) (free : slot.isBusy = false) :
    slot = Slot.free slot.id slot.lastActivity := by
  have unnamed : slot.projectId = "" := by
    by_contra named
    simpa [free] using consistent.busy_iff_project.mpr named
  have empty : slot.status = .empty := by
    by_contra filled
    simpa [free] using consistent.busy_iff_status.mpr filled
  have sessionless := consistent.free_session free
  cases slot
  simp_all [Slot.free]

theorem Slot.clear_occupy (consistent : slot.Consistent) (free : slot.isBusy = false)
    (claimed freed : Millis) :
    (slot.occupy projectId sessionId claimed).clear freed =
      { slot with lastActivity := freed } := by
  rw [consistent.eq_free free]
  rfl

namespace Pool

variable {pool after : Pool} {now : Millis} {id : SlotId}

theorem Sound.replaced_twice (sound : Sound { pool with slots }) {before after : List Slot}
    {old mid new : Slot} (first : Replaced old mid before slots)
    (second : Replaced mid new slots after) : Replaced old new before after := by
  obtain ⟨front, back, rfl, split⟩ := first
  obtain ⟨otherFront, otherBack, again, rfl⟩ := second
  have notBefore : mid ∉ front := fun member => (sound.other_ids split).1 mid member rfl
  have notBehind : mid ∉ back := fun member => (sound.other_ids split).2 mid member rfl
  obtain ⟨rfl, -, rfl⟩ :=
    (List.append_cons_inj_of_notMem notBefore notBehind).mp (split.symm.trans again)
  exact ⟨front, back, rfl, rfl⟩

theorem withdraw_filter (sound : pool.Sound) (projectId : String) :
    (pool.withdraw projectId).2 =
      { pool with waiting := pool.waiting.filter (·.projectId != projectId) } := by
  unfold withdraw
  split
  · next missing =>
    have others : pool.waiting.filter (·.projectId != projectId) = pool.waiting := by
      refine List.filter_eq_self.mpr ?_
      intro request member
      simpa using List.find?_eq_none.mp missing request member
    rw [others]
  · next request found =>
    obtain ⟨front, rest, queue, remaining, ahead, own⟩ := withdraw_split found
    have behind := (sound.other_projects queue).2
    rw [own] at behind
    have kept {others : List Request} (apart : ∀ other ∈ others, other.projectId ≠ projectId) :
        others.filter (·.projectId != projectId) = others :=
      List.filter_eq_self.mpr fun other member => by simpa using apart other member
    rw [remaining, queue, List.filter_append, List.filter_cons_of_neg (by simp [own]), kept ahead,
      kept behind]

/-- A free slot shows another time of its last activity, and the queue is another one. -/
def Undone (before : Pool) (id : SlotId) (waiting : List Request) (after : Pool) : Prop :=
  ∃ slot lastActivity slots, slot.id = id ∧ slot.isBusy = false ∧
    Replaced slot { slot with lastActivity } before.slots slots ∧
    after = { before with slots, waiting }

/-- A project that has just claimed a slot leaves the queue and gives the slot back. -/
theorem Effect.undone (sound : pool.Sound)
    (effect : Effect pool now (.claim id projectId sessionId) (.ok ()) after) (later : Millis) :
    pool.Undone id (pool.waiting.filter (·.projectId != projectId))
      (free (after.withdraw projectId).2 projectId later).2 := by
  have soundAfter := effect.sound sound
  cases effect with
  | unchanged _ _ quiet => exact quiet.elim
  | adjusted _ _ quiet => exact quiet.elim
  | claimed slot projectId sessionId slots free named unheld replaced =>
      have held : (slot.occupy projectId sessionId now).holds projectId = true := by
        simp [Slot.holds, Slot.occupy, named]
      have found : slots.find? (·.holds projectId) = some (slot.occupy projectId sessionId now) :=
        (holder?_eq_some_iff soundAfter).mpr ⟨replaced.new_mem, held⟩
      have restored :=
        soundAfter.replaced_twice replaced (updateFirst_replaced (·.clear later) found)
      rw [Slot.clear_occupy (sound.consistent slot replaced.old_mem) free] at restored
      rw [withdraw_filter soundAfter]
      exact ⟨slot, later, _, rfl, free, restored, by simp [Pool.free, holder?, found]⟩

end Pool

namespace Workflow

variable {scene : Scene} {before : Pool} {brokerUrl : String} {place : SlotId} {request : Request}

/-- What comes of a create for a project that fails: the provisioner has refused the assignment of a
slot, that slot is free as it was before, and the project's request is out of the queue. -/
def Fails (before : Pool) (projectId : String) (reason : WorkflowError) (after : Scene) : Prop :=
  ∃ slot earlier assignment refusal, reason = .provision refusal ∧
    assignment.projectId = projectId ∧
    after.exchanges = earlier ++ [⟨.assign slot assignment, .error refusal⟩] ∧
    before.Undone slot (before.waiting.filter (·.projectId != projectId)) after.pool

theorem provision_fails
    (undone : ∀ now, before.Undone place
      (before.waiting.filter (·.projectId != request.projectId))
      (scene.pool.free request.projectId now).2) :
    Ensures (fun result after => ∀ reason, result = .error reason →
      Fails before request.projectId reason after) (provision brokerUrl place request) scene := by
  unfold provision
  refine .call fun _ => .call fun answer => ?_
  cases answer with
  | ok done => exact (notify_tells _).seq fun _ _ _ => .pure (by simp)
  | error refusal =>
      refine .use fun now => .pure ?_
      rintro _ ⟨⟩
      exact ⟨place, _, _, refusal, rfl, rfl, rfl, undone now⟩

theorem enqueue_accepts (named : request.projectId ≠ "") :
    Ensures (fun result _ => ∀ reason, result ≠ .error reason) (enqueue request) scene := by
  unfold enqueue
  refine .use fun now => ?_
  split
  · exact (notify_tells _).seq fun _ _ _ => .pure (by simp)
  · exact (notify_tells _).seq fun _ _ _ => .pure (by simp)
  · next reason notFull refused =>
    obtain ⟨capacity, full⟩ := enqueue_refused named refused
    exact (notFull capacity full).elim

theorem create_fails (sound : scene.pool.Sound) (payload : Payload) :
    Ensures (fun result after => ∀ reason, result = .error reason →
      Fails scene.pool payload.projectId reason after) (create brokerUrl payload) scene := by
  unfold create
  split
  · exact .pure (by simp)
  next named =>
  replace named : payload.projectId ≠ "" := by simpa using named
  refine .use fun _ => ?_
  simp only [Pool.perform]
  cases holder : scene.pool.holder? payload.projectId with
  | some row => exact .map (.use fun _ => (notify_tells _).seq fun _ _ _ => .pure (by simp))
  | none =>
      have unheld := sound.not_hosts holder
      refine .look fun reading => (fillToken_tells _).seq ?_
      rintro request filled ⟨samePool, -, sameProject, -⟩
      replace samePool : filled.pool = scene.pool := samePool
      replace sameProject : request.projectId = payload.projectId := sameProject
      rw [← samePool] at sound unheld ⊢
      rw [← sameProject] at named unheld ⊢
      -- Nobody else acts, so the project is not found in a slot after all.
      refine (place_informs sound named unheld placementAttempts).seq ?_
      rintro result placed ⟨-, ⟨rfl, -⟩ | ⟨slot, now, rfl, effect⟩⟩
      · refine (enqueue_accepts named).mono ?_
        exact fun result _ accepted reason failed => absurd failed (accepted reason)
      · refine .use fun _ => (provision_fails fun later => effect.undone sound later).seq ?_
        intro result ended fails
        cases result with
        | ok done => exact .pure (by simp)
        | error reason => exact .pure (by simpa using fails)

/-- After any operations on a new pool, each run to its end, handling an event fails only if a
create's assignment was refused. The pool is then as it was before, but for the time at which the
claimed slot was last active, and for the project's own request: if the project waited, it does not
wait any more. -/
theorem failed_handling_undone (slotCount : UInt32) (capacity : Nat) (start : Millis)
    (brokerUrl : String) (around : Surroundings) (operations : List Operation) (event : Event) :
    let scene := (Scene.fresh slotCount capacity start).runAll around brokerUrl operations
    let ended := scene.run around (handle brokerUrl event)
    ∀ reason, ended.1 = .error reason →
      event.kind = .createRequested ∧
      ∃ slot lastActivity slots, slot.isBusy = false ∧
        Pool.Replaced slot { slot with lastActivity } scene.pool.slots slots ∧
        ended.2.pool = { scene.pool with
          slots, waiting := scene.pool.waiting.filter (·.projectId != event.payload.projectId) } ∧
        ∃ earlier assignment refusal, reason = .provision refusal ∧
          assignment.projectId = event.payload.projectId ∧
          ended.2.exchanges = earlier ++ [⟨.assign slot.id assignment, .error refusal⟩] := by
  intro scene ended reason failed
  have rests : Rests scene.pool scene.told ∅ :=
    Scene.runAll_keeps (fun operation _ rests => operation_informs operation rests) around
      (fresh_rests slotCount capacity start) operations
  have outcome : Ensures (fun result after => ∀ reason, result = .error reason →
      event.kind = .createRequested ∧ Fails scene.pool event.payload.projectId reason after)
      (handle brokerUrl event) scene := by
    unfold handle
    cases event.kind with
    | createRequested =>
        refine (create_fails rests.sound event.payload).mono ?_
        exact fun _ _ fails reason failed => ⟨rfl, fails reason failed⟩
    | releaseRequested => exact .map (.always (by simp))
    | pauseRequested => exact .map (.always (by simp))
    | unknown => exact .pure (by simp)
  obtain ⟨creates, slot, earlier, assignment, refusal, rfl, own, refused, undone⟩ :=
    outcome.run around reason failed
  obtain ⟨row, lastActivity, slots, rfl, free, replaced, result⟩ := undone
  exact ⟨creates, row, lastActivity, slots, free, replaced, result, earlier, assignment, refusal,
    rfl, own, refused⟩

/-- A project that waits while a slot stands free is created again, and the assignment is refused:
the slot is free once more, and the project has lost its place. -/
theorem failed_create_can_lose_place :
    let around : Surroundings := {
      reading := fun moment => if moment < 13 then 0 else 1800001
      answer := fun moment call =>
        match call with
        | .publish _ => .ok ()
        | .assign _ _ => if moment < 20 then .ok () else .error (.api "down")
        | .release _ _ => .ok ()
        | .lookUpToken _ => .ok "" }
    let create (projectId : String) : Event :=
      { kind := .createRequested, timestamp := default,
        payload := { Payload.blank with projectId, sessionId := "session" } }
    let scene := (Scene.fresh 1 2 0).runAll around ""
      [.handle (create "first"), .handle (create "second"), .pauseIdle (Span.ofMinutes 30)]
    let ended := scene.run around (handle "" (create "second"))
    ended.1 = .error (.provision (.api "down")) ∧
      scene.pool.waiting.map (·.projectId) = ["second"] ∧ ended.2.pool.waiting = [] := by
  decide +kernel

end Workflow

end WorkspacePool
