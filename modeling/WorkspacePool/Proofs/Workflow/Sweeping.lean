import WorkspacePool.Proofs.Workflow.Idling
import WorkspacePool.Proofs.Workflow.Pausing

/-!
What a pass over the idle slots touches. The pass scans the pool once and goes through the rows that
it found. Others go on using the pool meanwhile, and the rows may be outdated when their turn comes;
all the same the pass changes only slots that hold a scanned project at that moment, speaks of
scanned projects only, and leaves a project alone whose slot has changed.
-/

namespace WorkspacePool.Workflow

variable {trail : Trail} {taken : Taken} {row : Slot} {rows : List Slot} {slot : SlotId}
  {projectId : String} {chapter pages : List Stride} {freed : List SlotId}

/-- The step asked for a slot to be paused for a project, in vain. -/
def Taken.RefusesPause (taken : Taken) (slot : SlotId) (projectId : String) : Prop :=
  ∃ pool now reason, taken = ⟨pool, now, .usePool (.pauseIfHeld slot projectId), .error reason⟩

/-- The step reports on the project, calls the provisioner for it, or pauses or frees its slot. -/
def Taken.disturbs (projectId : String) : Taken → Bool
  | ⟨_, _, .call (.publish report), _⟩ => report.projectId == projectId
  | ⟨_, _, .call (.assign _ assignment), _⟩ => assignment.projectId == projectId
  | ⟨_, _, .call (.release _ owner), _⟩ => owner == projectId
  | ⟨_, _, .usePool (.pauseIfHeld _ owner), .ok ()⟩ => owner == projectId
  | ⟨_, _, .usePool (.free leaver), _⟩ => leaver == projectId
  | _ => false

/-- A step that a pass may take for a row that it has scanned. -/
def Step.attends (row : Slot) : Step → Bool
  | .readClock => true
  | .usePool (.pauseIfHeld slot owner) => slot == row.id && owner == row.projectId
  | .usePool (.free leaver) => leaver == row.projectId
  | .call (.publish report) => report.projectId == row.projectId
  | .call (.release slot owner) => slot == row.id && owner == row.projectId
  | _ => false

/-! ### One step -/

namespace Taken

theorem undisturbed_of_attends (attends : taken.step.attends row = true)
    (other : row.projectId ≠ projectId) : taken.disturbs projectId = false := by
  obtain ⟨pool, now, step, answer⟩ := taken
  cases step with
  | readClock => rfl
  | call call =>
      cases call with
      | publish report =>
          have own : report.projectId = row.projectId := by simpa [Step.attends] using attends
          simpa [disturbs, own] using other
      | release place owner =>
          have own : place = row.id ∧ owner = row.projectId := by
            simpa [Step.attends] using attends
          simpa [disturbs, own.2] using other
      | assign place assignment => contradiction
      | lookUpToken userId => rfl
  | usePool op =>
      cases op with
      | free leaver =>
          have own : leaver = row.projectId := by simpa [Step.attends] using attends
          simpa [disturbs, own] using other
      | pauseIfHeld place owner =>
          have own : place = row.id ∧ owner = row.projectId := by
            simpa [Step.attends] using attends
          cases answer with
          | ok done => simpa [disturbs, own.2] using other
          | error reason => rfl
      | _ => rfl

theorem waiting_of_attends (attends : taken.step.attends row = true) :
    taken.left.waiting = taken.pool.waiting := by
  obtain ⟨pool, now, step, answer⟩ := taken
  cases step with
  | readClock => rfl
  | call call => rfl
  | usePool op =>
      cases op with
      | pauseIfHeld place owner => exact pool.perform_waiting (.pauseIfHeld place owner) now rfl
      | free leaver => exact pool.perform_waiting (.free leaver) now rfl
      | _ => contradiction

/-- A step for a row changes a slot only where the row's project is. -/
theorem IsTold.held_of_attends (told : taken.IsTold) (sound : taken.pool.Sound)
    (attends : taken.step.attends row = true) (alters : taken.Alters slot) :
    HeldBy taken.pool slot row.projectId ∧ (taken.step = .usePool (.free row.projectId) ∨
      slot = row.id ∧ taken.step = .usePool (.pauseIfHeld row.id row.projectId)) := by
  have target := told.target sound alters
  cases told with
  | look pool now => contradiction
  | call pool now call answer => contradiction
  | use pool now op =>
      have target : op.target? (pool.perform now op).1 = some slot := target
      obtain ⟨found, shown, admitted, -⟩ := Pool.perform_rewrites sound now op target
      obtain ⟨member, number⟩ := (Pool.slot?_eq_some_iff sound).mp shown
      cases op with
      | free leaver =>
          obtain rfl : leaver = row.projectId := by simpa [Step.attends] using attends
          exact ⟨⟨found, member, number, admitted⟩, .inl rfl⟩
      | pauseIfHeld place owner =>
          obtain ⟨rfl, rfl⟩ : place = row.id ∧ owner = row.projectId := by
            simpa [Step.attends] using attends
          have here : slot = row.id := by
            revert target
            cases (pool.perform now (.pauseIfHeld row.id row.projectId)).1 <;>
              simp [PoolOp.target?, eq_comm]
          have holds : found.holds row.projectId = true ∧ found.status = .running := by
            simpa [PoolOp.admits] using admitted
          exact ⟨⟨found, member, number, holds.1⟩, .inr ⟨here, rfl⟩⟩
      | _ => contradiction

theorem names_row (attends : taken.step.attends row = true)
    (refuses : taken.RefusesPause slot projectId) : slot = row.id ∧ projectId = row.projectId := by
  obtain ⟨pool, now, reason, rfl⟩ := refuses
  simpa [Step.attends] using attends

theorem IsTold.left_of_refused (told : taken.IsTold) (sound : taken.pool.Sound)
    (refuses : taken.RefusesPause slot projectId) : taken.left = taken.pool := by
  obtain ⟨pool, now, reason, shape⟩ := refuses
  cases told with
  | look => simp at shape
  | call => simp at shape
  | use found clock op =>
      simp only [Taken.mk.injEq, Step.usePool.injEq] at shape
      obtain ⟨rfl, rfl, rfl, same⟩ := shape
      have reply := eq_of_heq same
      rcases Pool.pauseIfHeld_cases sound slot projectId with ⟨_, nothing⟩ | ⟨_, _, granted, -, -⟩
      · exact congrArg Prod.snd nothing
      · have both := (congrArg Prod.fst granted).symm.trans reply
        contradiction

end Taken

/-! ### The steps from here on -/

/-- What holds of the steps that an operation takes from here on, whatever the others do. -/
def Proceeds {α : Type} (goal : α → List Stride → Prop) (steps : Steps α) (trail : Trail) : Prop :=
  Withstands (fun result after => ∃ chapter, after.strides = trail.strides ++ chapter ∧
    goal result chapter) steps trail

section Rules

variable {α β : Type} {goal stronger : α → List Stride → Prop} {steps : Steps α}

theorem Proceeds.pure {result : α} (reached : goal result []) :
    Proceeds goal (pure result) trail :=
  Withstands.pure ⟨[], by simp, reached⟩

theorem Proceeds.step {step : Step} {next : step.Answer → Steps α}
    (rest : ∀ others now answers,
      let answer := step.respond (trail.pool.run others) now answers
      Proceeds (fun result later => goal result (trail.stride others now step answer :: later))
        (next answer) (trail.after others now step answer)) :
    Proceeds goal (Dialogue.question step >>= next) trail := by
  intro others now answers
  refine (rest others now answers).mono fun result after ended => ?_
  obtain ⟨later, split, reached⟩ := ended
  exact ⟨_, by simp [split, Trail.after], reached⟩

theorem Proceeds.bind {next : α → Steps β} {goal : β → List Stride → Prop}
    (first : Proceeds stronger steps trail)
    (second : ∀ result chapter after, stronger result chapter →
      Proceeds (fun ended later => goal ended (chapter ++ later)) (next result) after) :
    Proceeds goal (steps >>= next) trail := by
  refine Withstands.seq first fun result after reached => ?_
  obtain ⟨chapter, split, reached⟩ := reached
  refine (second result chapter after reached).mono fun ended last proceeded => ?_
  obtain ⟨later, again, reached⟩ := proceeded
  exact ⟨chapter ++ later, by rw [again, split, List.append_assoc], reached⟩

end Rules

/-! ### The pass -/

/-- The steps of a pass for one row: none of them disturbs a project whose pause was refused, and
the slot that is told to be freed was freed of the row's project. -/
structure Attended (row : Slot) (chapter : List Stride) (freed : Option SlotId) : Prop where
  steps : ∀ stride ∈ chapter, stride.step.attends row = true
  refused : ∀ trying ∈ chapter, trying.RefusesPause row.id row.projectId →
    ∀ other ∈ chapter, other.disturbs row.projectId = false
  freed : ∀ slot, freed = some slot →
    ∃ stride ∈ chapter, stride.booking? = some (.free slot row.projectId)

/-- The steps of a pass row by row, and the slots that it tells to be freed. -/
inductive Sweep : List Slot → List Stride → List SlotId → Prop where
  | nil : Sweep [] [] []
  | cons (row : Slot) (rows : List Slot) (chapter pages : List Stride) (freed : Option SlotId)
      (others : List SlotId) (attended : Attended row chapter freed)
      (sweep : Sweep rows pages others) :
      Sweep (row :: rows) (chapter ++ pages) (freed.toList ++ others)

theorem pauseIdle_attends (row : Slot) : Proceeds (fun freed chapter => Attended row chapter freed)
    (pauseIdle row) trail := by
  apply Proceeds.step
  intro others now _
  apply Proceeds.step
  intro before pausedAt _
  cases granted : (Step.usePool (.pauseIfHeld row.id row.projectId)).respond _ pausedAt _ with
  | error reason =>
      apply Proceeds.pure
      constructor
      · simp [Trail.stride, Step.attends]
      · simp [Trail.stride, Taken.disturbs]
      · simp
  | ok done =>
      apply Proceeds.step
      intro between toldAt _
      apply Proceeds.step
      intro since clearedAt _
      apply Proceeds.step
      intro later freedAt _
      apply Proceeds.step
      intro last latest _
      apply Proceeds.pure
      constructor
      · simp [Trail.stride, Step.attends, reportOf]
      · simp [Trail.stride, Taken.RefusesPause]
      · intro slot freed
        exact ⟨_, List.mem_of_getElem? (i := 4) rfl, booking?_of_freed freed⟩

theorem pauseEach_sweeps (rows : List Slot) :
    Proceeds (fun freed pages => Sweep rows pages freed) (pauseEach rows) trail := by
  induction rows generalizing trail with
  | nil => exact .pure .nil
  | cons row rows ih =>
      apply (pauseIdle_attends row).bind
      intro freed chapter _ attended
      apply ih.bind
      intro others pages _ sweep
      apply Proceeds.pure
      rw [List.append_nil]
      exact .cons row rows chapter pages freed others attended sweep

namespace Sweep

theorem attends (sweep : Sweep rows pages freed) :
    ∀ stride ∈ pages, ∃ row ∈ rows, stride.step.attends row = true := by
  induction sweep with
  | nil => simp
  | cons row rows chapter pages freed others attended sweep ih =>
      intro stride member
      cases List.mem_append.mp member with
      | inl own => exact ⟨row, List.mem_cons_self, attended.steps stride own⟩
      | inr later =>
          obtain ⟨other, found, attends⟩ := ih stride later
          exact ⟨other, List.mem_cons_of_mem _ found, attends⟩

theorem frees (sweep : Sweep rows pages freed) :
    ∀ slot ∈ freed, ∃ row ∈ rows, ∃ stride ∈ pages,
      stride.booking? = some (.free slot row.projectId) := by
  induction sweep with
  | nil => simp
  | cons row rows chapter pages freed others attended sweep ih =>
      intro slot member
      cases List.mem_append.mp member with
      | inl own =>
          obtain ⟨stride, here, booked⟩ := attended.freed slot (Option.mem_toList.mp own)
          exact ⟨row, List.mem_cons_self, stride, List.mem_append_left _ here, booked⟩
      | inr later =>
          obtain ⟨other, found, stride, here, booked⟩ := ih slot later
          exact ⟨other, List.mem_cons_of_mem _ found, stride, List.mem_append_right _ here, booked⟩

/-- A project whose pause was refused is not disturbed for any other row either, since every row is
of another project. -/
theorem skips (sweep : Sweep rows pages freed) (distinct : (rows.map (·.projectId)).Nodup) :
    ∀ trying ∈ pages, ∀ slot projectId, trying.RefusesPause slot projectId →
      ∀ other ∈ pages, other.disturbs projectId = false := by
  induction sweep with
  | nil => simp
  | cons row rows chapter pages freed others attended sweep ih =>
      have apart {other : Slot} (found : other ∈ rows) : other.projectId ≠ row.projectId := by
        intro same
        exact (List.nodup_cons.mp distinct).1 (List.mem_map.mpr ⟨other, found, same⟩)
      intro trying tries slot projectId refuses stride member
      cases List.mem_append.mp tries with
      | inl own =>
          obtain ⟨rfl, rfl⟩ := Taken.names_row (attended.steps trying own) refuses
          cases List.mem_append.mp member with
          | inl here => exact attended.refused trying own refuses stride here
          | inr later =>
              obtain ⟨other, found, attends⟩ := sweep.attends stride later
              exact Taken.undisturbed_of_attends attends (apart found)
      | inr turn =>
          cases List.mem_append.mp member with
          | inl here =>
              obtain ⟨other, found, attends⟩ := sweep.attends trying turn
              obtain ⟨rfl, rfl⟩ := Taken.names_row attends refuses
              have different := (apart found).symm
              exact Taken.undisturbed_of_attends (attended.steps stride here) different
          | inr later =>
              exact ih (List.nodup_cons.mp distinct).2 trying turn slot projectId refuses stride later

end Sweep

/-- When the idle slots are paused, whatever others do before each step, a step after the scan
changes no slot but one that holds a scanned project at that moment, by freeing that project or by
pausing it in the slot where it was scanned, and leaves the queue alone. Reports are on scanned
projects only. A pause that is refused changes nothing, and throughout the pass nothing is reported
on that project, no call on the provisioner is made for it, and its slot is neither paused nor
freed. Every slot that the pass tells to be freed held a scanned project when it was freed. -/
theorem sweep_touches_scanned_projects (slotCount : UInt32) (capacity : Nat) (start : Millis)
    (history : List Use) (company : Company) (idleTimeout : Span) :
    let pool := (Pool.create slotCount capacity start).run history
    let ended := (Trail.start pool).run company (pauseIdleSlots idleTimeout)
    ∃ scan since, ended.2.strides = scan :: since ∧
      scan.step = .usePool (.idleRunning idleTimeout) ∧ scan.left = scan.pool ∧
      let seen := scan.pool.idleRunning idleTimeout scan.now
      (∀ stride ∈ since, stride.left.waiting = stride.pool.waiting ∧
        ∀ slot, stride.Alters slot → ∃ row ∈ seen, HeldBy stride.pool slot row.projectId ∧
          (stride.step = .usePool (.free row.projectId) ∨
            slot = row.id ∧ stride.step = .usePool (.pauseIfHeld row.id row.projectId))) ∧
      (∀ stride ∈ since, ∀ report, stride.step = .call (.publish report) →
        ∃ row ∈ seen, report.projectId = row.projectId) ∧
      (∀ trying ∈ since, ∀ slot projectId, trying.RefusesPause slot projectId →
        trying.left = trying.pool ∧
        ∀ other ∈ since, other.disturbs projectId = false) ∧
      ∀ slot ∈ ended.1, ∃ row ∈ seen, ∃ stride ∈ since,
        stride.booking? = some (.free slot row.projectId) ∧
        HeldBy stride.pool slot row.projectId := by
  intro pool ended
  have sound : pool.Sound := (Pool.create_sound slotCount capacity start).run history
  have follows : ended.2.Follows pool := run_follows (start_follows pool) company _
  have scanned : Proceeds (fun freed strides => ∃ scan since, strides = scan :: since ∧
      scan.step = .usePool (.idleRunning idleTimeout) ∧ scan.left = scan.pool ∧
      Sweep (scan.pool.idleRunning idleTimeout scan.now) since freed)
      (pauseIdleSlots idleTimeout) (Trail.start pool) := by
    apply Proceeds.step
    intro others now answers
    refine (pauseEach_sweeps _).mono fun freed after ends => ?_
    obtain ⟨since, split, sweep⟩ := ends
    exact ⟨since, split, _, since, rfl, rfl, rfl, sweep⟩
  obtain ⟨strides, split, scan, since, rfl, scans, still, sweep⟩ := scanned.run company
  replace split : ended.2.strides = scan :: since := split
  have scanSound := follows.sound_at sound (show ended.2.strides = [] ++ scan :: since from split)
  have distinct := scanSound.idleRunning_distinct idleTimeout scan.now
  -- The steps after the scan find sound pools and are told what they are answered.
  have told {stride : Stride} (member : stride ∈ since) :
      stride.pool.Sound ∧ stride.IsTold := by
    obtain ⟨front, back, rfl⟩ := List.append_of_mem member
    have place : ended.2.strides = (scan :: front) ++ stride :: back := split
    exact ⟨follows.sound_at sound place, (follows.strides _ _ _ place).2⟩
  refine ⟨scan, since, split, scans, still, ?_, ?_, ?_, ?_⟩
  · intro stride member
    obtain ⟨row, found, attends⟩ := sweep.attends stride member
    refine ⟨Taken.waiting_of_attends attends, ?_⟩
    intro slot alters
    obtain ⟨soundThere, isTold⟩ := told member
    exact ⟨row, found, isTold.held_of_attends soundThere attends alters⟩
  · intro stride member report publishes
    obtain ⟨row, found, attends⟩ := sweep.attends stride member
    rw [publishes] at attends
    exact ⟨row, found, by simpa [Step.attends] using attends⟩
  · intro trying member slot projectId refuses
    obtain ⟨soundThere, isTold⟩ := told member
    exact ⟨isTold.left_of_refused soundThere refuses,
      sweep.skips distinct trying member slot projectId refuses⟩
  · intro slot freed
    obtain ⟨row, found, stride, member, booked⟩ := sweep.frees slot freed
    obtain ⟨soundThere, isTold⟩ := told member
    obtain ⟨session, served⟩ := isTold.tenant?_of_freed soundThere booked
    exact ⟨row, found, stride, member, booked, heldBy_of_tenant? soundThere served⟩

end WorkspacePool.Workflow
