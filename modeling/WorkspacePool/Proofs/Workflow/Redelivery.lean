import WorkspacePool.Proofs.Pool.Frame
import WorkspacePool.Proofs.Workflow.Truthfulness

/-!
An event that is delivered again. When its first handling has ended well and the clock has not moved
since, the second one finds everything done: it leaves the pool as it is, asks nothing of the
provisioner, and reports once more what came of the event.
-/

namespace WorkspacePool

namespace Pool

variable {pool : Pool} {slot : Slot} {id : SlotId} {projectId : String} {request other : Request}

theorem updateSlot_same {change : Slot → Slot} (found : pool.slot? id = some slot)
    (same : change slot = slot) : pool.updateSlot id change = pool := by
  obtain ⟨-, slots, ⟨front, back, split, rfl⟩, updated⟩ := updateSlot_replaced change found
  rw [updated, same, ← split]

theorem touch_current (sound : pool.Sound) (holder : pool.holder? projectId = some slot) :
    (pool.touch slot.id slot.lastActivity).2 = pool := by
  obtain ⟨member, -⟩ := (holder?_eq_some_iff sound).mp holder
  have found := (slot?_eq_some_iff sound).mpr ⟨member, rfl⟩
  simp only [touch, found]
  exact updateSlot_same found rfl

theorem holder?_touch (sound : pool.Sound) (holder : pool.holder? projectId = some slot)
    (now : Millis) :
    (pool.touch slot.id now).2.holder? projectId = some { slot with lastActivity := now } := by
  obtain ⟨member, held⟩ := (holder?_eq_some_iff sound).mp holder
  have found := (slot?_eq_some_iff sound).mpr ⟨member, rfl⟩
  obtain ⟨-, slots, replaced, updated⟩ := updateSlot_replaced ({ · with lastActivity := now }) found
  have effect : Effect pool now (.touch slot.id) _ _ := touch_effect sound
  have soundAfter := effect.sound sound
  simp only [touch, found, updated] at soundAfter ⊢
  exact (holder?_eq_some_iff soundAfter).mpr ⟨replaced.new_mem, held⟩

theorem holder?_claim (sound : pool.Sound) {sessionId : String} {now : Millis} {after : Pool}
    (effect : pool.Effect now (.claim id projectId sessionId) (.ok ()) after) :
    ∃ row, after.holder? projectId = some row ∧ row.id = id ∧ row.lastActivity = now := by
  have soundAfter := effect.sound sound
  cases effect with
  | unchanged _ _ quiet => exact quiet.elim
  | adjusted _ _ quiet => exact quiet.elim
  | claimed slot projectId sessionId slots free named unheld replaced =>
      have held : (slot.occupy projectId sessionId now).holds projectId = true := by
        simp [Slot.holds, Slot.occupy, named]
      exact ⟨_, (holder?_eq_some_iff soundAfter).mpr ⟨replaced.new_mem, held⟩, rfl, rfl⟩

theorem holder?_withdraw (leaver : String) :
    (pool.withdraw leaver).2.holder? projectId = pool.holder? projectId := by
  rw [holder?, holder?, withdraw_frame]

theorem enqueue_again (sound : pool.Sound) (same : other.projectId = request.projectId) :
    (pool.enqueue request).2.enqueue other = pool.enqueue request := by
  by_cases unnamed : request.projectId = ""
  · simp [enqueue, same, unnamed]
  cases found : pool.position? request.projectId with
  | some place => simp [enqueue, same, unnamed, found]
  | none =>
      by_cases full : pool.capacity ≤ pool.waiting.length
      · simp [enqueue, same, unnamed, found, full]
      · have entered : pool.enqueue request = (.ok (pool.waiting.length + 1),
            { pool with waiting := pool.waiting ++ [request] }) := by
          simp [enqueue, unnamed, found, full]
        have effect : Effect pool 0 (.enqueue request) _ _ := enqueue_effect
        rw [entered] at effect
        have waits := (effect.enqueue_place sound).1
        rw [entered]
        simp [enqueue, same, unnamed, waits]

end Pool

namespace Workflow

/-! ### Runs at one time -/

/-- Collaborators that answer as they like, while the clock stands still. -/
def Surroundings.still (clock : Millis) (answer : Nat → (call : Call) → call.Answer) :
    Surroundings :=
  { reading := fun _ => clock, answer }

/-- What holds at the end of an operation that is run between given surroundings. -/
def Attains {α : Type} (around : Surroundings) (goal : α → Scene → Prop) (steps : Steps α)
    (scene : Scene) : Prop :=
  goal (scene.run around steps).1 (scene.run around steps).2

section Rules

variable {α β : Type} {around : Surroundings} {goal stronger : α → Scene → Prop} {scene : Scene}
  {steps : Steps α} {clock : Millis} {answer : Nat → (call : Call) → call.Answer}

theorem Ensures.attains (ensures : Ensures goal steps scene) : Attains around goal steps scene :=
  ensures.run around

theorem Attains.mono (attains : Attains around stronger steps scene)
    (weaken : ∀ result after, stronger result after → goal result after) :
    Attains around goal steps scene :=
  weaken _ _ attains

theorem Attains.and {other : α → Scene → Prop} (left : Attains around goal steps scene)
    (right : Attains around other steps scene) :
    Attains around (fun result after => goal result after ∧ other result after) steps scene :=
  ⟨left, right⟩

theorem Attains.bind {next : α → Steps β} {goal : β → Scene → Prop}
    (first : Attains around (fun result after => Attains around goal (next result) after) steps
      scene) : Attains around goal (steps >>= next) scene := by
  rw [Attains, Scene.run_bind]
  exact first

theorem Attains.seq {next : α → Steps β} {goal : β → Scene → Prop}
    (first : Ensures stronger steps scene)
    (second : ∀ result after, stronger result after → Attains around goal (next result) after) :
    Attains around goal (steps >>= next) scene :=
  .bind (first.attains.mono second)

theorem Attains.map {change : α → β} {goal : β → Scene → Prop}
    (first : Attains around (fun result after => goal (change result) after) steps scene) :
    Attains around goal (change <$> steps) scene :=
  .bind first

theorem Attains.pure {result : α} (reached : goal result scene) :
    Attains around goal (pure result) scene := reached

theorem Attains.look {next : Millis → Steps α}
    (attains : Attains (.still clock answer) goal (next clock) scene.afterReading) :
    Attains (.still clock answer) goal (Steps.now >>= next) scene := attains

theorem Attains.use {op : PoolOp} {next : op.Reply → Steps α}
    (attains : Attains (.still clock answer) goal (next (scene.pool.perform clock op).1)
      (scene.afterUse clock op)) :
    Attains (.still clock answer) goal (Steps.usePool op >>= next) scene := attains

end Rules

/-! ### What is told once more -/

/-- What the handling of an event comes to when the event was handled before. -/
def Consequence.again : Consequence → Consequence
  | .running slot | .alreadyRunning slot => .alreadyRunning slot
  | .queued position => .queued position
  | .rejected => .rejected
  | .released _ _ => .released none .idle
  | .paused _ _ => .paused none .idle
  | .ignored => .ignored

/-- The one report that is published then. -/
def Consequence.echo? (payload : Payload) : Consequence → Option Report
  | .running slot | .alreadyRunning slot => reportTo payload .running (runningMessage slot)
  | .queued position => reportTo payload .queued (queuedMessage position)
  | .rejected => reportTo payload .failed queueFullMessage
  | .released _ _ => reportTo payload .released releasedMessage
  | .paused _ _ => reportTo payload .paused pausedMessage
  | .ignored => none

/-- The pool and the provisioner are left alone, and at most a report is published. -/
structure Echoes (before : Scene) (told : Option Report) (after : Scene) : Prop where
  pool : after.pool = before.pool
  orders : ∀ family, after.orders family = before.orders family
  reports : after.reports = before.reports ++ told.toList

/-- An event that has come to a consequence comes to it again. -/
def Repeats (before : Scene) (payload : Payload) (consequence : Consequence)
    (result : Except WorkflowError Consequence) (after : Scene) : Prop :=
  result = .ok consequence.again ∧ Echoes before (consequence.echo? payload) after

variable {scene before : Scene} {brokerUrl : String} {projectId sessionId : String}
  {payload : Payload} {request : Request} {consequence : Consequence} {clock : Millis}
  {answer : Nat → (call : Call) → call.Answer}

theorem Echoes.refl (scene : Scene) : Echoes scene none scene :=
  ⟨rfl, fun _ => rfl, by simp⟩

theorem Echoes.use {op : PoolOp} (quiet : Echoes before none scene)
    (same : (scene.pool.perform clock op).2 = scene.pool) :
    Echoes before none (scene.afterUse clock op) :=
  ⟨same.trans quiet.pool, quiet.orders, quiet.reports⟩

theorem Echoes.look (quiet : Echoes before none scene) :
    Echoes before none scene.afterReading :=
  ⟨quiet.pool, quiet.orders, quiet.reports⟩

theorem notify_echoes {report : Report} (quiet : Echoes before none scene) :
    Ensures (fun _ after => Echoes before (some report) after) (notify report) scene := by
  refine .call fun reply => .pure ⟨quiet.pool, fun family => ?_, ?_⟩
  · rw [orders_afterCall, quiet.orders]
    simp [Exchange.order?]
  · rw [reports_afterCall, quiet.reports]
    simp [Exchange.report?]

theorem fillToken_echoes (request : Request) (quiet : Echoes before none scene) :
    Ensures (fun filled after => Echoes before none after ∧
      filled.projectId = request.projectId ∧ filled.sessionId = request.sessionId)
      (fillToken request) scene := by
  unfold fillToken
  split
  · refine .call fun reply => ?_
    have asked : Echoes before none (scene.afterCall ⟨.lookUpToken request.userId, reply⟩) := by
      refine ⟨quiet.pool, fun family => ?_, ?_⟩
      · rw [orders_afterCall, quiet.orders]
        simp [Exchange.order?]
      · rw [reports_afterCall, quiet.reports]
        simp [Exchange.report?]
    cases reply with
    | ok githubToken => exact .pure ⟨asked, rfl, rfl⟩
    | error reason => exact .pure ⟨asked, rfl, rfl⟩
  · exact .pure ⟨quiet, rfl, rfl⟩

theorem place_full (full : scene.pool.firstFree? = none) (quiet : Echoes before none scene)
    (attempts : Nat) :
    Ensures (fun result after => result = .error .noSlotsAvailable ∧ Echoes before none after)
      (place projectId sessionId attempts) scene := by
  cases attempts with
  | zero => exact .pure ⟨rfl, quiet⟩
  | succ attempts =>
      unfold place
      refine .use fun _ => ?_
      simp only [Pool.perform, Pool.findFree, full]
      exact .pure ⟨rfl, quiet.pool, quiet.orders, quiet.reports⟩

/-! ### Creates -/

/-- Where a create that was answered has left its project. -/
inductive Answered (pool : Pool) (clock : Millis) (projectId : String) : Consequence → Prop where
  | running (row : Slot) (holder : pool.holder? projectId = some row)
      (current : row.lastActivity = clock) : Answered pool clock projectId (.running row.id)
  | alreadyRunning (row : Slot) (holder : pool.holder? projectId = some row)
      (current : row.lastActivity = clock) : Answered pool clock projectId (.alreadyRunning row.id)
  | queued (position : Nat) (named : projectId ≠ "") (unheld : pool.holder? projectId = none)
      (full : pool.firstFree? = none)
      (waits : ∀ request : Request, request.projectId = projectId →
        pool.enqueue request = (.ok position, pool)) :
      Answered pool clock projectId (.queued position)
  | rejected (capacity : Nat) (named : projectId ≠ "") (unheld : pool.holder? projectId = none)
      (full : pool.firstFree? = none)
      (refused : ∀ request : Request, request.projectId = projectId →
        pool.enqueue request = (.error (.queueFull capacity), pool)) :
      Answered pool clock projectId .rejected
  | ignored (unnamed : projectId = "") : Answered pool clock projectId .ignored

theorem confirmRunning_answered {row : Slot} (sound : scene.pool.Sound)
    (holder : scene.pool.holder? payload.projectId = some row) :
    Attains (.still clock answer) (fun result after =>
        Answered after.pool clock payload.projectId result)
      (confirmRunning row.id payload) scene := by
  refine .use (.seq (notify_tells _) ?_)
  rintro _ after ⟨same, -⟩
  have touched :
      after.pool.holder? payload.projectId = some { row with lastActivity := clock } := by
    rw [same]
    exact Pool.holder?_touch sound holder clock
  exact .pure (.alreadyRunning { row with lastActivity := clock } touched rfl)

theorem enqueue_answered (sound : scene.pool.Sound) (named : request.projectId ≠ "")
    (unheld : scene.pool.holder? request.projectId = none)
    (full : scene.pool.firstFree? = none) :
    Ensures (fun result after => ∀ consequence, result = .ok consequence →
      Answered after.pool clock request.projectId consequence) (enqueue request) scene := by
  unfold enqueue
  refine .use fun now => ?_
  have slots : (scene.pool.enqueue request).2.slots = scene.pool.slots := Pool.enqueue_frame
  have again := fun (other : Request) (same : other.projectId = request.projectId) =>
    Pool.enqueue_again sound same
  cases result : scene.pool.enqueue request with
  | mk reply left =>
    rw [result] at slots
    simp only [result] at again
    rw [Pool.holder?, ← slots] at unheld
    rw [Pool.firstFree?, ← slots] at full
    have reached : (scene.afterUse now (.enqueue request)).pool = left := congrArg Prod.snd result
    simp only [Pool.perform, result]
    split
    · next position =>
      refine (notify_tells _).seq ?_
      rintro _ after ⟨same, -⟩
      refine .pure ?_
      rintro _ ⟨⟩
      rw [same, reached]
      exact .queued position named unheld full again
    · next capacity =>
      refine (notify_tells _).seq ?_
      rintro _ after ⟨same, -⟩
      refine .pure ?_
      rintro _ ⟨⟩
      rw [same, reached]
      exact .rejected capacity named unheld full again
    · exact .pure (by simp)

theorem provision_runs {place : SlotId} :
    Ensures (fun result after => result = .ok () → after.pool = scene.pool)
      (provision brokerUrl place request) scene := by
  unfold provision
  refine .call fun _ => .call fun reply => ?_
  cases reply with
  | ok done => exact (notify_tells _).seq fun _ after told => .pure fun _ => told.1
  | error refusal => exact .use fun now => .pure (by simp)

theorem place_free {slot : SlotId} (sound : scene.pool.Sound)
    (shown : scene.pool.firstFree? = some slot) (named : projectId ≠ "")
    (unheld : scene.pool.holder? projectId = none) (attempts : Nat) :
    Attains (.still clock answer) (fun result after => result = .ok (.claimed slot) ∧
      ∃ row, after.pool.holder? projectId = some row ∧ row.id = slot ∧ row.lastActivity = clock)
      (place projectId sessionId (attempts + 1)) scene := by
  have granted := Pool.claim_shown sound shown named (sound.not_hosts unheld) sessionId clock
  have effect : scene.pool.Effect clock (.claim slot projectId sessionId) _ _ :=
    Pool.claim_effect sound
  rw [granted] at effect
  unfold place
  refine .use ?_
  simp only [Pool.perform, Pool.findFree, shown]
  refine .use ?_
  simp only [Pool.perform, Scene.afterUse, granted]
  exact .pure ⟨rfl, Pool.holder?_claim sound effect⟩

theorem create_held {goal : Except WorkflowError Consequence → Scene → Prop} {row : Slot}
    (holder : scene.pool.holder? payload.projectId = some row)
    (rest : ∀ asked, Echoes scene none asked →
      Attains (.still clock answer) (fun result after => goal (.ok result) after)
        (confirmRunning row.id payload) asked) :
    Attains (.still clock answer) goal (create brokerUrl payload) scene := by
  have held := List.find?_some (p := fun row : Slot => row.holds payload.projectId) holder
  have named := (Slot.holds_iff.mp held).2.1
  unfold create
  simp only [beq_iff_eq, named, ↓reduceIte]
  refine .use ?_
  simp only [Pool.perform, holder]
  exact .map (rest _ ((Echoes.refl scene).use rfl))

theorem create_full {goal : Except WorkflowError Consequence → Scene → Prop}
    (named : payload.projectId ≠ "") (unheld : scene.pool.holder? payload.projectId = none)
    (full : scene.pool.firstFree? = none)
    (rest : ∀ request asked, request.projectId = payload.projectId →
      request.sessionId = payload.sessionId → Echoes scene none asked →
      Attains (.still clock answer) goal (enqueue request) asked) :
    Attains (.still clock answer) goal (create brokerUrl payload) scene := by
  unfold create
  simp only [beq_iff_eq, named, ↓reduceIte]
  refine .use ?_
  simp only [Pool.perform, unheld]
  refine .look (.seq (fillToken_echoes _ ((Echoes.refl scene).use rfl).look) ?_)
  rintro request filled ⟨quiet, sameProject, sameSession⟩
  rw [← quiet.pool] at full
  refine .seq (place_full full quiet placementAttempts) ?_
  rintro _ placed ⟨rfl, quiet⟩
  exact rest request placed sameProject sameSession quiet

theorem create_answered (sound : scene.pool.Sound) (payload : Payload) :
    Attains (.still clock answer) (fun result after => ∀ consequence, result = .ok consequence →
        Answered after.pool clock payload.projectId consequence)
      (create brokerUrl payload) scene := by
  cases holder : scene.pool.holder? payload.projectId with
  | some row =>
      refine create_held holder fun asked quiet => ?_
      rw [← quiet.pool] at sound holder
      refine (confirmRunning_answered sound holder).mono ?_
      rintro result after answered _ ⟨⟩
      exact answered
  | none =>
      by_cases unnamed : payload.projectId = ""
      · unfold create
        simp only [unnamed, beq_self_eq_true, ↓reduceIte]
        refine .pure ?_
        rintro _ ⟨⟩
        exact .ignored rfl
      cases shown : scene.pool.firstFree? with
      | none =>
          refine create_full unnamed holder shown fun request asked own _ quiet => ?_
          rw [← own] at unnamed holder ⊢
          rw [← quiet.pool] at sound holder shown
          exact (enqueue_answered sound unnamed holder shown).attains
      | some slot =>
          unfold create
          simp only [beq_iff_eq, unnamed, ↓reduceIte]
          refine .use ?_
          simp only [Pool.perform, holder]
          refine .look (.seq (fillToken_echoes _ ((Echoes.refl scene).use rfl).look) ?_)
          rintro request filled ⟨quiet, -, -⟩
          rw [← quiet.pool] at sound shown holder
          -- Nobody else acts, so the free slot that was shown is claimed at the first attempt.
          refine .bind ((place_free sound shown unnamed holder 2).mono ?_)
          rintro _ placed ⟨rfl, row, claimed, rfl, current⟩
          refine .use (.seq provision_runs ?_)
          intro result ended same
          cases result with
          | error reason => exact .pure (by simp)
          | ok done =>
              refine .pure ?_
              rintro _ ⟨⟩
              refine .running row ?_ current
              rw [same rfl]
              exact (Pool.holder?_withdraw _).trans claimed

theorem confirmRunning_echoes {row : Slot} (sound : scene.pool.Sound)
    (holder : scene.pool.holder? payload.projectId = some row) (quiet : Echoes before none scene) :
    Attains (.still row.lastActivity answer) (fun result after => result = .alreadyRunning row.id ∧
      Echoes before (some (reportTo payload .running (runningMessage row.id))) after)
      (confirmRunning row.id payload) scene := by
  have touched : Echoes before none (scene.afterUse row.lastActivity (.touch row.id)) :=
    quiet.use (Pool.touch_current sound holder)
  exact .use (.seq (notify_echoes touched) fun _ _ told => .pure ⟨rfl, told⟩)

theorem enqueue_echoes_place {position : Nat}
    (waits : scene.pool.enqueue request = (.ok position, scene.pool))
    (quiet : Echoes before none scene) :
    Attains (.still clock answer) (fun result after => result = .ok (.queued position) ∧
      Echoes before (some (reportOn request .queued (queuedMessage position))) after)
      (enqueue request) scene := by
  have entered : Echoes before none (scene.afterUse clock (.enqueue request)) :=
    quiet.use (congrArg Prod.snd waits)
  refine .use ?_
  simp only [Pool.perform, waits]
  exact .seq (notify_echoes entered) fun _ _ told => .pure ⟨rfl, told⟩

theorem enqueue_echoes_refusal {capacity : Nat}
    (refused : scene.pool.enqueue request = (.error (.queueFull capacity), scene.pool))
    (quiet : Echoes before none scene) :
    Attains (.still clock answer) (fun result after => result = .ok .rejected ∧
      Echoes before (some (reportOn request .failed queueFullMessage)) after)
      (enqueue request) scene := by
  have tried : Echoes before none (scene.afterUse clock (.enqueue request)) :=
    quiet.use (congrArg Prod.snd refused)
  refine .use ?_
  simp only [Pool.perform, refused]
  exact .seq (notify_echoes tried) fun _ _ told => .pure ⟨rfl, told⟩

/-- A create that was answered is answered again in the same way. -/
theorem create_echoes (sound : scene.pool.Sound)
    (answered : Answered scene.pool clock payload.projectId consequence) :
    Attains (.still clock answer) (Repeats scene payload consequence) (create brokerUrl payload)
      scene := by
  cases answered with
  | running row holder current | alreadyRunning row holder current =>
      -- The clock reads as it did when the slot was last used,
      -- so noting activity changes nothing.
      subst current
      refine create_held holder fun asked quiet => ?_
      rw [← quiet.pool] at sound holder
      refine (confirmRunning_echoes sound holder quiet).mono ?_
      rintro _ after ⟨rfl, told⟩
      exact ⟨rfl, told⟩
  | queued position named unheld full waits =>
      refine create_full named unheld full fun request asked project session quiet => ?_
      rw [← quiet.pool] at waits
      refine (enqueue_echoes_place (waits request project) quiet).mono ?_
      rintro _ after ⟨rfl, told⟩
      rw [reportOn, project, session] at told
      exact ⟨rfl, told⟩
  | rejected capacity named unheld full refused =>
      refine create_full named unheld full fun request asked project session quiet => ?_
      rw [← quiet.pool] at refused
      refine (enqueue_echoes_refusal (refused request project) quiet).mono ?_
      rintro _ after ⟨rfl, told⟩
      rw [reportOn, project, session] at told
      exact ⟨rfl, told⟩
  | ignored unnamed =>
      unfold create
      simp only [unnamed, beq_self_eq_true, ↓reduceIte]
      exact .pure ⟨rfl, .refl scene⟩

/-! ### Releases and pauses -/

theorem notify_tells_last {α : Type} {status : WorkspaceStatus} {message : String} {result : α} :
    Ensures (fun ended after => ended = result ∧ after.told payload.projectId = some status)
      (do notify (reportTo payload status message); return result) scene := by
  refine (notify_tells _).seq ?_
  rintro _ after ⟨-, told⟩
  refine .pure ⟨rfl, ?_⟩
  rw [told]
  exact Function.update_self _ _ _

theorem release_tells (payload : Payload) :
    Ensures (fun result after => (∃ slot served, result = .released slot served) ∧
      after.told payload.projectId = some .released) (release brokerUrl payload) scene := by
  have rest (slot : Option SlotId) (torn : Scene) : Ensures (fun result after =>
      (∃ slot served, result = .released slot served) ∧
        after.told payload.projectId = some .released) (do
      let served ← serveAfter brokerUrl slot
      notify (reportTo payload .released releasedMessage)
      return Consequence.released slot served) torn :=
    .bind (.always fun served after => notify_tells_last.mono
      fun _ _ ⟨ended, told⟩ => ⟨⟨slot, served, ended⟩, told⟩)
  unfold release
  refine .bind (.always fun slot torn => ?_)
  split
  · exact .use fun now => rest slot _
  · exact rest slot torn

theorem pause_tells (payload : Payload) :
    Ensures (fun result after => (∃ slot served, result = .paused slot served) ∧
      after.told payload.projectId = some .paused) (pause brokerUrl payload) scene := by
  unfold pause
  refine .use fun _ => ?_
  split
  · exact notify_tells_last.mono fun _ _ ⟨ended, told⟩ => ⟨⟨none, .idle, ended⟩, told⟩
  · refine .bind (.always fun _ _ => .use fun _ => .bind (.always fun slot _ => ?_))
    exact .bind (.always fun served _ => notify_tells_last.mono
      fun _ _ ⟨ended, told⟩ => ⟨⟨slot, served, ended⟩, told⟩)

theorem tearDown_echoes (unheld : scene.pool.holder? projectId = none) :
    Ensures (fun freed after => freed = none ∧ Echoes scene none after) (tearDown projectId)
      scene := by
  unfold tearDown
  refine .use fun now => ?_
  simp only [Pool.perform, unheld]
  exact .pure ⟨rfl, (Echoes.refl scene).use rfl⟩

theorem release_echoes (unheld : scene.pool.holder? payload.projectId = none)
    (unqueued : ¬ scene.pool.Waits payload.projectId) :
    Attains (.still clock answer) (fun result after => result = .released none .idle ∧
      Echoes scene (some (reportTo payload .released releasedMessage)) after)
      (release brokerUrl payload) scene := by
  have missing : scene.pool.waiting.find? (·.projectId == payload.projectId) = none := by
    refine List.find?_eq_none.mpr fun request member own => ?_
    exact unqueued ⟨request, member, by simpa using own⟩
  unfold release
  refine .seq (tearDown_echoes unheld) ?_
  rintro _ torn ⟨rfl, quiet⟩
  have left : (torn.pool.perform clock (.withdraw payload.projectId)).2 = torn.pool := by
    simp [Pool.perform, Pool.withdraw, quiet.pool, missing]
  simp only [Option.isNone_none, ↓reduceIte]
  refine .use ?_
  simp only [serveAfter, Dialogue.pure_bind]
  exact .seq (notify_echoes (quiet.use left)) fun _ _ told => .pure ⟨rfl, told⟩

theorem pause_echoes (unheld : scene.pool.holder? payload.projectId = none) :
    Attains (.still clock answer) (fun result after => result = .paused none .idle ∧
      Echoes scene (some (reportTo payload .paused pausedMessage)) after)
      (pause brokerUrl payload) scene := by
  have looked : Echoes scene none (scene.afterUse clock (.holder payload.projectId)) :=
    (Echoes.refl scene).use rfl
  unfold pause
  refine .use ?_
  simp only [Pool.perform, unheld]
  exact .seq (notify_echoes looked) fun _ _ told => .pure ⟨rfl, told⟩

/-! ### Events -/

/-- Where an event that was handled well has left its project. -/
inductive Handled (pool : Pool) (clock : Millis) (payload : Payload) :
    EventKind → Consequence → Prop where
  | create (consequence : Consequence)
      (answered : Answered pool clock payload.projectId consequence) :
      Handled pool clock payload .createRequested consequence
  | release (slot : Option SlotId) (served : Served)
      (unheld : pool.holder? payload.projectId = none)
      (unqueued : ¬ pool.Waits payload.projectId) :
      Handled pool clock payload .releaseRequested (.released slot served)
  | pause (slot : Option SlotId) (served : Served)
      (unheld : pool.holder? payload.projectId = none) :
      Handled pool clock payload .pauseRequested (.paused slot served)
  | unknown : Handled pool clock payload .unknown .ignored

/-- What every project was told last tells that a released one is gone, and that a paused one holds
no slot. -/
theorem handle_handled (informed : Informed scene.pool scene.told ∅) (event : Event) :
    Attains (.still clock answer) (fun result after => ∀ consequence, result = .ok consequence →
      Handled after.pool clock event.payload event.kind consequence) (handle brokerUrl event)
      scene := by
  unfold handle
  cases event.kind with
  | createRequested =>
      refine (create_answered informed.sound event.payload).mono ?_
      exact fun result after answered consequence ended => .create _ (answered consequence ended)
  | releaseRequested =>
      refine .map (.mono (.and (release_informs informed event.payload).attains
        (release_tells event.payload).attains) ?_)
      rintro _ after ⟨rests, ⟨slot, served, rfl⟩, told⟩ _ ⟨⟩
      -- The last report is that the project is gone, and what was reported last fits the pool.
      have fits := rests.fits event.payload.projectId (Set.notMem_empty _)
      rw [told] at fits
      have unheld : ¬ after.pool.Hosts event.payload.projectId := fun held => by
        simpa using fits.held held
      refine .release slot served (rests.sound.holder?_eq_none_iff_not_hosts.mpr unheld) ?_
      intro waits
      simpa using fits.waits waits
  | pauseRequested =>
      refine .map (.mono (.and (pause_informs informed event.payload).attains
        (pause_tells event.payload).attains) ?_)
      rintro _ after ⟨rests, ⟨slot, served, rfl⟩, told⟩ _ ⟨⟩
      have fits := rests.fits event.payload.projectId (Set.notMem_empty _)
      rw [told] at fits
      have unheld : ¬ after.pool.Hosts event.payload.projectId := fun held => by
        simpa using fits.held held
      exact .pause slot served (rests.sound.holder?_eq_none_iff_not_hosts.mpr unheld)
  | unknown =>
      refine .pure ?_
      rintro _ ⟨⟩
      exact .unknown

theorem handle_echoes (sound : scene.pool.Sound) {event : Event}
    (handled : Handled scene.pool clock event.payload event.kind consequence) :
    Attains (.still clock answer) (Repeats scene event.payload consequence) (handle brokerUrl event)
      scene := by
  unfold handle
  cases kind : event.kind with
  | createRequested =>
      rw [kind] at handled
      cases handled with
      | create _ answered => exact create_echoes sound answered
  | releaseRequested =>
      rw [kind] at handled
      cases handled with
      | release slot served unheld unqueued =>
          refine .map ((release_echoes unheld unqueued).mono ?_)
          rintro _ after ⟨rfl, told⟩
          exact ⟨rfl, told⟩
  | pauseRequested =>
      rw [kind] at handled
      cases handled with
      | pause slot served unheld =>
          refine .map ((pause_echoes unheld).mono ?_)
          rintro _ after ⟨rfl, told⟩
          exact ⟨rfl, told⟩
  | unknown =>
      rw [kind] at handled
      cases handled with
      | unknown => exact .pure ⟨rfl, .refl scene⟩

/-- After any operations on a new pool, each run to its end, an event whose handling ended well is
delivered again while the clock stands still and nobody else acts. Whatever the collaborators answer
to either handling, the second one leaves the pool as it was, gives the provisioner no order,
publishes nothing but the report that fits the first one's end, and comes to that end again: what
runs is running already, and what was released or paused is so with no slot and nobody served. -/
theorem redelivery_repeats (slotCount : UInt32) (capacity : Nat) (start : Millis)
    (brokerUrl : String) (around : Surroundings) (operations : List Operation) (event : Event)
    (clock : Millis) (first second : Nat → (call : Call) → call.Answer) :
    let scene := (Scene.fresh slotCount capacity start).runAll around brokerUrl operations
    let handled := scene.run (.still clock first) (handle brokerUrl event)
    let again := handled.2.run (.still clock second) (handle brokerUrl event)
    ∀ consequence, handled.1 = .ok consequence →
      again.1 = .ok consequence.again ∧ again.2.pool = handled.2.pool ∧
      (∀ family, again.2.orders family = handled.2.orders family) ∧
      again.2.reports = handled.2.reports ++ (consequence.echo? event.payload).toList := by
  intro scene handled again consequence ended
  have rests : Rests scene.pool scene.told ∅ :=
    Scene.runAll_keeps (fun operation _ rests => operation_informs operation rests) around
      (fresh_rests slotCount capacity start) operations
  have reached : Handled handled.2.pool clock event.payload event.kind consequence :=
    handle_handled rests.toInformed event consequence ended
  have sound : handled.2.pool.Sound :=
    ((handle_informs rests.toInformed event).run (.still clock first)).sound
  obtain ⟨result, echoes⟩ : Repeats handled.2 event.payload consequence again.1 again.2 :=
    handle_echoes sound reached
  exact ⟨result, echoes.pool, echoes.orders, echoes.reports⟩

end Workflow

end WorkspacePool
