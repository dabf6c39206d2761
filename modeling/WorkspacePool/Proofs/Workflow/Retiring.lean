import WorkspacePool.Proofs.Workflow.Draining
import WorkspacePool.Proofs.Workflow.Idling

/-!
A pass over the idle slots that no other caller interrupts. The pass works on copies of the rows,
taken by its scan before it touches the first of them. In a sound pool the rows are of different
slots and projects, so clearing one leaves the copies of the others true: each is still held and
running at its turn, and freeing its project frees that very slot.
-/

namespace WorkspacePool

namespace Pool

variable {pool : Pool} {rows rest : List Slot} {row other : Slot} {freed : Slot → Millis}

/-- The pool with some of its rows cleared, each at its own time. The other rows and the queue are
as they were. -/
def clearRows (pool : Pool) (rows : List Slot) (freed : Slot → Millis) : Pool :=
  { pool with
    slots := pool.slots.map fun row => if row ∈ rows then row.clear (freed row) else row }

theorem clearRows_nil (pool : Pool) (freed : Slot → Millis) : pool.clearRows [] freed = pool := by
  simp [clearRows]

theorem mem_clearRows (member : row ∈ (pool.clearRows rows freed).slots) :
    row.isBusy = false ∨ row ∈ pool.slots ∧ row ∉ rows := by
  obtain ⟨old, inPool, rfl⟩ := List.mem_map.mp member
  split
  · exact .inl rfl
  · next kept => exact .inr ⟨inPool, kept⟩

theorem clearRows_keeps (member : row ∈ pool.slots) (kept : row ∉ rows) :
    row ∈ (pool.clearRows rows freed).slots :=
  List.mem_map.mpr ⟨row, member, if_neg kept⟩

theorem clearRows_cons (apart : row.id ∉ rest.map (·.id)) (first : Millis) :
    (pool.clearRows [row] fun _ => first).clearRows rest freed =
      pool.clearRows (row :: rest) fun other => if other = row then first else freed other := by
  have cleared : row.clear first ∉ rest := fun member =>
    apart (List.mem_map.mpr ⟨_, member, rfl⟩)
  simp only [clearRows, List.map_map]
  congr 1
  refine List.map_congr_left fun other _ => ?_
  by_cases same : other = row
  · subst same
    simp [cleared]
  · simp [same]

theorem Replaced.eq_clearRows (sound : pool.Sound) {slots : List Slot} {now : Millis}
    (replaced : Replaced row (row.clear now) pool.slots slots) :
    { pool with slots } = pool.clearRows [row] fun _ => now := by
  obtain ⟨front, back, split, rfl⟩ := replaced
  obtain ⟨inFront, inBack⟩ := sound.other_ids split
  have kept {others : List Slot} (apart : ∀ other ∈ others, other.id ≠ row.id) :
      (others.map fun other => if other ∈ [row] then other.clear now else other) = others := by
    refine (List.map_congr_left fun other member => ?_).trans (List.map_id _)
    have different : other ≠ row := fun same => apart other member (congrArg Slot.id same)
    simp [different]
  rw [clearRows, split, List.map_append, List.map_cons, kept inFront, kept inBack]
  simp

/-- A running slot can be paused, and freeing its project then clears that very slot. -/
theorem Sound.retire (sound : pool.Sound) (member : row ∈ pool.slots) (busy : row.isBusy = true)
    (running : row.status = .running) :
    ∃ paused : Pool, pool.pauseIfHeld row.id row.projectId = (.ok (), paused) ∧
      ∀ now, paused.free row.projectId now =
        (.ok row.id, pool.clearRows [row] fun _ => now) := by
  have held := (sound.consistent row member).holds_iff.mpr ⟨busy, rfl⟩
  have found := (slot?_eq_some_iff sound).mpr ⟨member, rfl⟩
  have granted : pool.pauseIfHeld row.id row.projectId =
      (.ok (), pool.updateSlot row.id ({ · with status := .paused })) := by
    simp [pauseIfHeld, found, held, running]
  obtain ⟨-, slots, replaced, updated⟩ := updateSlot_replaced ({ · with status := .paused }) found
  have effect : Effect pool 0 (.pauseIfHeld row.id row.projectId) _ _ := pauseIfHeld_effect
  have soundPaused := effect.sound sound
  rw [granted] at soundPaused
  refine ⟨_, granted, fun now => ?_⟩
  rw [updated] at soundPaused ⊢
  have holder : slots.find? (·.holds row.projectId) = some { row with status := .paused } :=
    (holder?_eq_some_iff soundPaused).mpr ⟨replaced.new_mem, held⟩
  have cleared : Replaced row (row.clear now) pool.slots _ :=
    soundPaused.replaced_twice replaced (updateFirst_replaced (·.clear now) holder)
  simp [free, holder?, holder, ← cleared.eq_clearRows sound]

/-- When all that a scan listed is cleared, the same scan lists nothing. -/
theorem idleRunning_cleared (pool : Pool) (limit : Span) (now : Millis) (freed : Slot → Millis) :
    (pool.clearRows (pool.idleRunning limit now) freed).idleRunning limit now = [] := by
  refine List.eq_nil_iff_forall_not_mem.mpr fun row listed => ?_
  obtain ⟨member, busy, running, idle⟩ := mem_idleRunning.mp listed
  rcases mem_clearRows member with free | ⟨inPool, unlisted⟩
  · simp [busy] at free
  · exact unlisted (mem_idleRunning.mpr ⟨inPool, busy, running, idle⟩)

end Pool

namespace Workflow

variable {around : Surroundings} {scene before after : Scene} {row : Slot} {rows rest : List Slot}

/-- What the clock reads at some moment, a given one or a later one. -/
def Surroundings.ReadsFrom (around : Surroundings) (moment : Nat) (clock : Millis) : Prop :=
  ∃ later, moment ≤ later ∧ around.reading later = clock

theorem Surroundings.ReadsFrom.earlier {first second : Nat} {clock : Millis}
    (reads : around.ReadsFrom second clock) (ordered : first ≤ second) :
    around.ReadsFrom first clock := by
  obtain ⟨later, from_second, same⟩ := reads
  exact ⟨later, ordered.trans from_second, same⟩

theorem Attains.lookNow {α : Type} {goal : α → Scene → Prop} {next : Millis → Steps α}
    (attains : Attains around goal (next (around.reading scene.moment)) scene.afterReading) :
    Attains around goal (Steps.now >>= next) scene := attains

/-- The calls that pausing an idle slot makes. Its session is told before and after the workspace is
released, and how many whole seconds the slot had been idle. -/
def retirement (row : Slot) (looked : Millis) : List Call :=
  [.publish (reportOf row .pausing (idleMessage ((row.idleFor looked).toNat / 1000))),
    .release row.id row.projectId,
    .publish (reportOf row .paused idlePausedMessage)]

/-- Slots were paused one after the other: each was looked at and freed when the clock read this and
that, and nothing else was done. -/
structure Retires (before : Scene) (rows : List Slot) (looked freed : Slot → Millis)
    (after : Scene) : Prop where
  pool : after.pool = before.pool.clearRows rows freed
  calls : ∃ made, after.exchanges = before.exchanges ++ made ∧
    made.map (·.call) = rows.flatMap fun row => retirement row (looked row)
  later : before.moment ≤ after.moment

theorem pauseIdle_retires (sound : scene.pool.Sound) (member : row ∈ scene.pool.slots)
    (busy : row.isBusy = true) (running : row.status = .running) :
    Attains around (fun result after => result = some row.id ∧
      ∃ looked freed, around.ReadsFrom scene.moment looked ∧ around.ReadsFrom scene.moment freed ∧
        Retires scene [row] (fun _ => looked) (fun _ => freed) after) (pauseIdle row) scene := by
  obtain ⟨paused, granted, frees⟩ := sound.retire member busy running
  unfold pauseIdle
  refine .lookNow (.useNow ?_)
  simp only [Pool.perform, Scene.afterUse, Scene.afterReading, granted]
  refine .call (.call (.useNow ?_))
  simp only [Pool.perform, Scene.afterUse, Scene.afterCall, frees]
  refine .call (.pure ⟨rfl, around.reading scene.moment, around.reading (scene.moment + 1 + 1 + 1 + 1),
    ⟨_, le_rfl, rfl⟩, ⟨_, by omega, rfl⟩, rfl, ?_, by simp [Scene.afterCall]; omega⟩)
  exact ⟨_, by simp [Scene.afterCall, List.append_assoc]; rfl, rfl⟩

theorem Retires.cons {looked freed : Millis} {looks frees : Slot → Millis} {mid : Scene}
    (first : Retires before [row] (fun _ => looked) (fun _ => freed) mid)
    (later : Retires mid rest looks frees after) (apart : row.id ∉ rest.map (·.id)) :
    Retires before (row :: rest) (fun other => if other = row then looked else looks other)
      (fun other => if other = row then freed else frees other) after := by
  obtain ⟨own, ownMade, ownCalls⟩ := first.calls
  obtain ⟨others, othersMade, othersCalls⟩ := later.calls
  constructor
  · rw [later.pool, first.pool, Pool.clearRows_cons apart]
  · refine ⟨own ++ others, by rw [othersMade, ownMade, List.append_assoc], ?_⟩
    have unchanged : (rest.flatMap fun other => retirement other (looks other)) =
        rest.flatMap fun other =>
          retirement other (if other = row then looked else looks other) := by
      refine List.flatMap_congr fun other member => ?_
      have different : other ≠ row := by
        rintro rfl
        exact apart (List.mem_map_of_mem member)
      rw [if_neg different]
    rw [List.map_append, ownCalls, othersCalls, unchanged]
    simp
  · exact first.later.trans later.later

theorem pauseEach_retires (sound : scene.pool.Sound)
    (idle : ∀ row ∈ rows, row ∈ scene.pool.slots ∧ row.isBusy = true ∧ row.status = .running)
    (distinct : (rows.map (·.id)).Nodup) :
    Attains around (fun result after => result = rows.map (·.id) ∧ ∃ looked freed,
      (∀ row, around.ReadsFrom scene.moment (looked row)) ∧
      (∀ row, around.ReadsFrom scene.moment (freed row)) ∧
      Retires scene rows looked freed after) (pauseEach rows) scene := by
  induction rows generalizing scene with
  | nil =>
      have reads : around.ReadsFrom scene.moment (around.reading scene.moment) :=
        ⟨_, le_rfl, rfl⟩
      exact .pure ⟨rfl, fun _ => around.reading scene.moment, fun _ => around.reading scene.moment,
        fun _ => reads, fun _ => reads, (Pool.clearRows_nil _ _).symm, ⟨[], by simp⟩, le_rfl⟩
  | cons row rest ih =>
      obtain ⟨apart, restDistinct⟩ := List.nodup_cons.mp distinct
      obtain ⟨member, busy, running⟩ := idle row List.mem_cons_self
      refine .bind (((pauseIdle_retires sound member busy running).and
        (ensures_sound sound).attains).mono ?_)
      rintro _ mid ⟨⟨rfl, looked, freed, looks, frees, first⟩, soundMid⟩
      -- The scan is older than the pool by now, but the rows to come are as it saw them.
      have stillIdle : ∀ other ∈ rest,
          other ∈ mid.pool.slots ∧ other.isBusy = true ∧ other.status = .running := by
        intro other listed
        have different : other ∉ [row] := by
          rintro same
          obtain rfl := List.mem_singleton.mp same
          exact apart (List.mem_map_of_mem listed)
        obtain ⟨there, state⟩ := idle other (List.mem_cons_of_mem _ listed)
        rw [first.pool]
        exact ⟨Pool.clearRows_keeps there different, state⟩
      refine .bind ((ih soundMid stillIdle restDistinct).mono ?_)
      rintro _ last ⟨rfl, restLooked, restFreed, restLooks, restFrees, others⟩
      refine .pure ⟨rfl, _, _, ?_, ?_, first.cons others apart⟩
      · intro other
        split
        · exact looks
        · exact (restLooks other).earlier first.later
      · intro other
        split
        · exact frees
        · exact (restFrees other).earlier first.later

theorem pauseIdleSlots_retires (sound : scene.pool.Sound) (idleTimeout : Span) :
    let listed := scene.pool.idleRunning idleTimeout (around.reading scene.moment)
    Attains around (fun result after => result = listed.map (·.id) ∧ ∃ looked freed,
      (∀ row, around.ReadsFrom (scene.moment + 1) (looked row)) ∧
      (∀ row, around.ReadsFrom (scene.moment + 1) (freed row)) ∧
      Retires scene listed looked freed after) (pauseIdleSlots idleTimeout) scene := by
  intro listed
  have idle : ∀ row ∈ listed,
      row ∈ scene.pool.slots ∧ row.isBusy = true ∧ row.status = .running := by
    intro row member
    obtain ⟨there, busy, running, -⟩ := Pool.mem_idleRunning.mp member
    exact ⟨there, busy, running⟩
  have pass : Attains around _ (pauseIdleSlots idleTimeout) scene :=
    .useNow (pauseEach_retires sound idle (sound.idleRunning_ids idleTimeout _))
  refine pass.mono ?_
  rintro result after ⟨returned, looked, freed, looks, frees, pool, calls, later⟩
  exact ⟨returned, looked, freed, looks, frees, pool, calls, (Nat.le_succ _).trans later⟩

/-- With no other caller in between, whatever the clock reads and whether or not the provisioner and
the publisher fail, a pass frees exactly the slots that its scan lists and returns their ids in the
order of the scan. Each is looked at and freed at some time after the scan; its session is told that
it is pausing, its workspace is released once, and its session is told that it is paused. Nothing
else is called, and the other rows and the queue stay as they are. A second pass whose scan reads
the same time frees nothing, calls nobody and changes nothing. -/
theorem idle_pass_retires (around : Surroundings) (scene : Scene) (sound : scene.pool.Sound)
    (idleTimeout : Span) :
    let listed := scene.pool.idleRunning idleTimeout (around.reading scene.moment)
    let ended := scene.run around (pauseIdleSlots idleTimeout)
    ended.1 = listed.map (·.id) ∧ listed.Pairwise Slot.Precedes ∧
      (∃ looked freed : Slot → Millis,
        (∀ row, around.ReadsFrom (scene.moment + 1) (looked row)) ∧
        (∀ row, around.ReadsFrom (scene.moment + 1) (freed row)) ∧
        ended.2.pool = { scene.pool with
          slots := scene.pool.slots.map fun row =>
            if row ∈ listed then Slot.free row.id (freed row) else row } ∧
        ∃ made, ended.2.exchanges = scene.exchanges ++ made ∧
          made.map (·.call) = listed.flatMap fun row =>
            [.publish ⟨row.sessionId, row.projectId, .pausing,
                idleMessage ((row.idleFor (looked row)).toNat / 1000)⟩,
              .release row.id row.projectId,
              .publish ⟨row.sessionId, row.projectId, .paused, idlePausedMessage⟩]) ∧
      ∀ later : Surroundings,
        later.reading ended.2.moment = around.reading scene.moment →
        let again := ended.2.run later (pauseIdleSlots idleTimeout)
        again.1 = [] ∧ again.2.pool = ended.2.pool ∧ again.2.exchanges = ended.2.exchanges := by
  intro listed ended
  have pass : Attains around _ _ scene := pauseIdleSlots_retires sound idleTimeout
  obtain ⟨returned, looked, freed, looks, frees, retires⟩ := pass
  refine ⟨returned, sound.idleRunning_ordered idleTimeout _, ?_, ?_⟩
  · exact ⟨looked, freed, looks, frees, retires.pool, retires.calls⟩
  · intro later same again
    have nothing : ended.2.pool.idleRunning idleTimeout (later.reading ended.2.moment) = [] := by
      rw [same]
      exact retires.pool ▸ Pool.idleRunning_cleared scene.pool idleTimeout _ freed
    have second : Attains later (fun result after => result = [] ∧
        after.pool = ended.2.pool ∧ after.exchanges = ended.2.exchanges)
        (pauseIdleSlots idleTimeout) ended.2 := by
      refine .useNow ?_
      simp only [Pool.perform, nothing]
      exact .pure ⟨rfl, rfl, rfl⟩
    exact second

/-- Two slots are freed, equally idle ones in the order of their numbers, though the provisioner and
the publisher fail each time. -/
theorem idle_slots_retire_unheard :
    let scene : Scene := ⟨twoIdle, [], 0⟩
    let around : Surroundings := .still 1800001 fun _ => fun
      | .publish _ => .error .notConfirmed
      | .assign _ _ | .release _ _ => .error (.api "down")
      | .lookUpToken _ => .error .notConfigured
    let ended := scene.run around (pauseIdleSlots (Span.ofMinutes 30))
    scene.pool.Sound ∧ ended.1 = [⟨1⟩, ⟨2⟩] ∧
      ended.2.pool.slots = [Slot.free ⟨1⟩ 1800001, Slot.free ⟨2⟩ 1800001] := by
  intro scene around ended
  have sound : scene.pool.Sound := (Pool.create_sound 2 0 0).run _
  obtain ⟨returned, -, ⟨-, freed, -, frees, pool, -⟩, -⟩ :=
    idle_pass_retires around scene sound (Span.ofMinutes 30)
  have listed : scene.pool.idleRunning (Span.ofMinutes 30) (around.reading scene.moment) =
      twoIdle.slots := twoIdle_scan
  have clock (row : Slot) : freed row = 1800001 := by
    obtain ⟨moment, -, reads⟩ := frees row
    exact reads.symm
  rw [listed] at returned pool
  simp only [clock] at pool
  exact ⟨sound, returned.trans (by decide), (congrArg Pool.slots pool).trans (by decide)⟩

end Workflow

end WorkspacePool
