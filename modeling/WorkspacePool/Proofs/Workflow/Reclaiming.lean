import WorkspacePool.Proofs.Pool.Presence
import WorkspacePool.Proofs.Workflow.Company

/-!
Reclaiming idle slots among other callers. Before a slot is cleared the pool has confirmed that it
holds the project and the pause was reported, in the two steps before. Nothing keeps others from
freeing the project while the report is published, and then the slot may be another's: that is the
only way for a slot to be cleared that does not hold the project.
-/

namespace WorkspacePool.Workflow

/-- The slot holds the project. -/
def HeldBy (pool : Pool) (slot : SlotId) (projectId : String) : Prop :=
  ∃ row ∈ pool.slots, row.id = slot ∧ row.holds projectId = true

/-- The step confirmed that a slot holds a project, and paused it. -/
def Taken.Pauses (taken : Taken) (slot : SlotId) (projectId : String) : Prop :=
  ∃ pool now, taken = ⟨pool, now, .usePool (.pauseIfHeld slot projectId), .ok ()⟩

/-- The step reported that a project is being paused. -/
def Taken.ReportsPausing (taken : Taken) (projectId : String) : Prop :=
  ∃ report, taken.step = .call (.publish report) ∧
    report.projectId = projectId ∧ report.status = .pausing

/-- The step has the provisioner clear a slot of a project. -/
def Taken.Clears (taken : Taken) (slot : SlotId) (projectId : String) : Prop :=
  taken.step = .call (.release slot projectId)

instance (pool : Pool) (slot : SlotId) (projectId : String) :
    Decidable (HeldBy pool slot projectId) :=
  inferInstanceAs (Decidable (∃ row ∈ pool.slots, _))

instance (taken : Taken) (slot : SlotId) (projectId : String) :
    Decidable (taken.Clears slot projectId) :=
  inferInstanceAs (Decidable (_ = _))

/-- What comes before a slot is cleared: a pause that was granted and the report of it. Unless
others have freed the project since, the slot still holds it. -/
def Shielded (earlier : List Stride) (clearing : Stride) (slot : SlotId) (projectId : String) :
    Prop :=
  ∃ front pausing telling, earlier = front ++ [pausing, telling] ∧
    pausing.Pauses slot projectId ∧ telling.ReportsPausing projectId ∧
    ((∀ use ∈ telling.others ++ clearing.others, use.op ≠ .free projectId) →
      HeldBy clearing.pool slot projectId)

/-- Every slot that is cleared is cleared as it should be. -/
def Guarded (strides : List Stride) : Prop :=
  ∀ front clearing back slot projectId, strides = front ++ clearing :: back →
    clearing.Clears slot projectId → Shielded front clearing slot projectId

theorem guarded_nil : Guarded [] := by
  intro front clearing back slot projectId split
  simp at split

theorem Guarded.append {strides : List Stride} {stride : Stride} (guarded : Guarded strides)
    (shielded : ∀ slot projectId, stride.Clears slot projectId →
      Shielded strides stride slot projectId) : Guarded (strides ++ [stride]) := by
  intro front clearing back slot projectId split clears
  rcases split_of_append split with ⟨rfl, rfl⟩ | ⟨rest, earlier⟩
  · exact shielded slot projectId clears
  · exact guarded front clearing rest slot projectId earlier clears

/-- A trail of a sound pool on which every slot was cleared as it should be. -/
structure Careful (trail : Trail) : Prop where
  sound : trail.pool.Sound
  guarded : Guarded trail.strides

section Steps

variable {trail : Trail} {others : List Use} {now : Millis} {slot : SlotId} {projectId : String}

theorem sound_after (sound : trail.pool.Sound) (step : Step) (answer : step.Answer) :
    (trail.after others now step answer).pool.Sound :=
  sound_leave (sound.run others) now step

/-- Only a call on the provisioner clears a slot. -/
theorem Careful.after (careful : Careful trail) (step : Step) (answer : step.Answer)
    (harmless : ∀ slot projectId, step ≠ .call (.release slot projectId)) :
    Careful (trail.after others now step answer) := by
  refine ⟨sound_after careful.sound step answer, careful.guarded.append ?_⟩
  intro slot projectId clears
  exact absurd clears (harmless slot projectId)

/-- A pause is granted only where the slot holds the project, and leaves it there. -/
theorem tenant?_of_pauseIfHeld {pool : Pool} (sound : pool.Sound)
    (granted : (pool.pauseIfHeld slot projectId).1 = .ok ()) :
    ∃ session, (pool.pauseIfHeld slot projectId).2.tenant? slot = some (projectId, session) := by
  rcases Pool.pauseIfHeld_cases sound slot projectId with ⟨reason, refused⟩ |
    ⟨after, session, paused, adjusted, served⟩
  · rw [refused] at granted
    contradiction
  · rw [paused]
    exact ⟨session, (congrFun (adjusted.tenant?_eq sound) slot).trans served⟩

theorem heldBy_of_tenant? {pool : Pool} (sound : pool.Sound) {session : String}
    (served : pool.tenant? slot = some (projectId, session)) : HeldBy pool slot projectId := by
  obtain ⟨row, member, number, held, -⟩ := (Pool.tenant?_eq_some_iff sound).mp served
  exact ⟨row, member, number, held⟩

theorem heldBy_of_holder? {pool : Pool} {row : Slot} (sound : pool.Sound)
    (holder : pool.holder? projectId = some row) : HeldBy pool row.id projectId := by
  obtain ⟨member, held⟩ := (Pool.holder?_eq_some_iff sound).mp holder
  exact ⟨row, member, rfl, held⟩

/-- A claim that names a holder names the project's own slot. -/
theorem heldBy_of_elsewhere {pool : Pool} (sound : pool.Sound) {place id : SlotId}
    {other sessionId : String} {now : Millis}
    (refused : (pool.claim id projectId sessionId now).1 = .error (.alreadyAssigned other place)) :
    HeldBy (pool.claim id projectId sessionId now).2 place projectId := by
  revert refused
  unfold Pool.claim
  split
  · simp
  · split
    · next holder found =>
      intro refused
      obtain ⟨-, rfl⟩ : projectId = other ∧ holder.id = place := by simpa using refused
      exact heldBy_of_holder? sound (Option.filter_eq_some_iff.mp found).1
    · split
      · simp
      · split
        · simp
        · simp

end Steps

/-! ### From the pause of a slot to its clearing -/

/-- The last step paused the slot of a project. -/
structure Paused (trail : Trail) (slot : SlotId) (projectId : String) : Prop
    extends Careful trail where
  last : ∃ front pausing, trail.strides = front ++ [pausing] ∧ pausing.Pauses slot projectId
  served : ∃ session, trail.pool.tenant? slot = some (projectId, session)

/-- The last two steps paused the slot of a project and reported it. -/
structure Reported (trail : Trail) (slot : SlotId) (projectId : String) : Prop
    extends Careful trail where
  recent : ∃ front pausing telling, trail.strides = front ++ [pausing, telling] ∧
    pausing.Pauses slot projectId ∧ telling.ReportsPausing projectId ∧
    ((∀ use ∈ telling.others, use.op ≠ .free projectId) →
      ∃ session, trail.pool.tenant? slot = some (projectId, session))

section Pausing

variable {trail : Trail} {others : List Use} {now : Millis} {slot : SlotId} {projectId : String}

theorem Careful.pause (careful : Careful trail)
    (granted : ((trail.pool.run others).pauseIfHeld slot projectId).1 = .ok ()) :
    Paused (trail.after others now (.usePool (.pauseIfHeld slot projectId)) (.ok ())) slot
      projectId := by
  refine ⟨careful.after _ _ (by simp),
    ⟨trail.strides, trail.stride others now _ _, rfl, ⟨trail.pool.run others, now, rfl⟩⟩, ?_⟩
  exact tenant?_of_pauseIfHeld (careful.sound.run others) granted

theorem Paused.report (paused : Paused trail slot projectId) {report : Report}
    (own : report.projectId = projectId) (pausing : report.status = .pausing)
    (answer : (Call.publish report).Answer) :
    Reported (trail.after others now (.call (.publish report)) answer) slot projectId := by
  obtain ⟨front, pause, split, pauses⟩ := paused.last
  obtain ⟨session, served⟩ := paused.served
  refine ⟨paused.toCareful.after _ _ (by simp), front, pause,
    trail.stride others now (.call (.publish report)) answer, ?_, pauses, ?_, ?_⟩
  · simp [Trail.after, split]
  · exact ⟨report, rfl, own, pausing⟩
  · intro kept
    exact ⟨session, Pool.run_tenant_stays paused.sound served others kept⟩

theorem Reported.clear (reported : Reported trail slot projectId)
    (answer : (Call.release slot projectId).Answer) :
    Careful (trail.after others now (.call (.release slot projectId)) answer) := by
  refine ⟨sound_after reported.sound _ _, reported.guarded.append ?_⟩
  intro cleared owner clears
  obtain ⟨rfl, rfl⟩ := Call.release.inj (Step.call.inj clears)
  obtain ⟨front, pausing, telling, split, pauses, reports, served⟩ := reported.recent
  refine ⟨front, pausing, telling, split, pauses, reports, ?_⟩
  intro kept
  obtain ⟨session, held⟩ := served fun use member => kept use (List.mem_append_left _ member)
  have still := Pool.run_tenant_stays reported.sound held others fun use member =>
    kept use (List.mem_append_right _ member)
  exact heldBy_of_tenant? (reported.sound.run others) still

theorem pauseIdle_careful (careful : Careful trail) (seen : Slot) :
    Withstands (fun _ after => Careful after) (pauseIdle seen) trail := by
  unfold pauseIdle
  refine .look fun others now => .use fun before pausedAt => ?_
  have looked : Careful (trail.after others now .readClock now) := careful.after _ _ (by simp)
  split
  · exact .pure (looked.after _ _ (by simp))
  · next granted =>
    rw [granted]
    refine .call fun between toldAt published => .call fun since clearedAt cleared => ?_
    refine .use fun later freedAt => .call fun last latest answer => .pure ?_
    refine Careful.after (Careful.after ?_ _ _ (by simp)) _ _ (by simp)
    exact ((looked.pause granted).report rfl rfl published).clear cleared

theorem pauseEach_careful (careful : Careful trail) (seen : List Slot) :
    Withstands (fun _ after => Careful after) (pauseEach seen) trail := by
  induction seen generalizing trail with
  | nil => exact .pure careful
  | cons slot rest ih =>
      refine (pauseIdle_careful careful slot).seq fun freed paused careful => ?_
      exact (ih careful).seq fun others after careful => .pure careful

theorem pauseIdleSlots_careful (careful : Careful trail) (idleTimeout : Span) :
    Withstands (fun _ after => Careful after) (pauseIdleSlots idleTimeout) trail :=
  .use fun others now => pauseEach_careful (careful.after _ _ (by simp)) _

end Pausing

/-- When idle slots are paused, whatever others do before each step, a slot is cleared of a project
only right after the pool granted its pause and the pause was reported. The slot still holds the
project then, unless others have freed the project in between. -/
theorem clearing_follows_pause (slotCount : UInt32) (capacity : Nat) (start : Millis)
    (history : List Use) (company : Company) (idleTimeout : Span) :
    let pool := (Pool.create slotCount capacity start).run history
    let trail := ((Trail.start pool).run company (pauseIdleSlots idleTimeout)).2
    ∀ front clearing back slot projectId, trail.strides = front ++ clearing :: back →
      clearing.Clears slot projectId → Shielded front clearing slot projectId := by
  intro pool trail
  have sound : pool.Sound := (Pool.create_sound slotCount capacity start).run history
  have careful : Careful (Trail.start pool) := ⟨sound, guarded_nil⟩
  exact ((pauseIdleSlots_careful careful idleTimeout).run company).guarded

/-- A slot is held by one project, another one waits, and the first is freed and the second served
while the pause of the first is being reported. -/
def handedOver : Company :=
  { reading := fun _ => 1800001
    answer := fun _ => fun
      | .publish _ | .assign _ _ | .release _ _ => .ok ()
      | .lookUpToken _ => .error .notConfigured
    others := fun moment =>
      if moment = 4 then [⟨1, 1800001, .free "first"⟩, ⟨1, 1800001, .claimNext⟩] else [] }

/-- Then the slot is cleared of the first project while the second one holds it. -/
theorem clearing_can_hit_another :
    let waiting : Request := ⟨"second", "", "", "session", "", "", 0⟩
    let pool := (Pool.create 1 1 0).run
      [⟨0, 0, .claim ⟨1⟩ "first" "session"⟩, ⟨0, 0, .enqueue waiting⟩]
    let trail := ((Trail.start pool).run handedOver (pauseIdleSlots (Span.ofMinutes 30))).2
    ∃ clearing ∈ trail.strides, clearing.Clears ⟨1⟩ "first" ∧
      ¬ HeldBy clearing.pool ⟨1⟩ "first" ∧ HeldBy clearing.pool ⟨1⟩ "second" := by
  decide +kernel

end WorkspacePool.Workflow
