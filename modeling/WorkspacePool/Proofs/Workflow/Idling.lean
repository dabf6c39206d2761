import WorkspacePool.Proofs.Pool.Idleness
import WorkspacePool.Proofs.Pool.Rewriting
import WorkspacePool.Proofs.Workflow.Lineage

/-!
On what evidence idle slots are paused. A pass scans the pool once and pauses the slots that it
found idle, one after the other. Each pause is granted only if the slot still runs and holds the
project, but nothing asks again how long it has been idle, so a slot that others use meanwhile is
paused all the same.
-/

namespace WorkspacePool

namespace Workflow

variable {trail : Trail} {idleTimeout : Span} {row : Slot} {rest : List Slot} {slot : SlotId}
  {projectId : String}

/-- The step neither frees the project nor notes activity. -/
def Taken.Spares (taken : Taken) (projectId : String) : Prop :=
  taken.step ≠ .usePool (.free projectId) ∧ ∀ slot, taken.step ≠ .usePool (.touch slot)

/-- The steps so far began with a scan that found the slot idle, and have spared its project. -/
def SeenIdle (idleTimeout : Span) (earlier : List Stride) (row : Slot) : Prop :=
  ∃ scan since, earlier = scan :: since ∧ scan.step = .usePool (.idleRunning idleTimeout) ∧
    row ∈ scan.pool.idleRunning idleTimeout scan.now ∧ ∀ own ∈ since, own.Spares row.projectId

/-- Every pause was of a slot that had been seen idle. -/
def PausesSeen (idleTimeout : Span) (strides : List Stride) : Prop :=
  ∀ front pausing back slot projectId, strides = front ++ pausing :: back →
    pausing.Pauses slot projectId →
    ∃ row, SeenIdle idleTimeout front row ∧ row.id = slot ∧ row.projectId = projectId

/-- A pass over the pool, with the rows that are still before it. -/
structure Pass (idleTimeout : Span) (remaining : List Slot) (trail : Trail) : Prop where
  seen : ∀ row ∈ remaining, SeenIdle idleTimeout trail.strides row
  distinct : (remaining.map (·.projectId)).Nodup
  pauses : PausesSeen idleTimeout trail.strides

section Passes

variable {remaining : List Slot} {others : List Use} {now : Millis}

theorem SeenIdle.append {earlier : List Stride} {stride : Stride}
    (seen : SeenIdle idleTimeout earlier row) (spares : stride.Spares row.projectId) :
    SeenIdle idleTimeout (earlier ++ [stride]) row := by
  obtain ⟨scan, since, rfl, scans, found, spared⟩ := seen
  refine ⟨scan, since ++ [stride], rfl, scans, found, ?_⟩
  exact List.forall_mem_append.mpr ⟨spared, List.forall_mem_singleton.mpr spares⟩

theorem pausesSeen_nil : PausesSeen idleTimeout [] := by
  intro front pausing back slot projectId split
  simp at split

theorem PausesSeen.append {strides : List Stride} {stride : Stride}
    (pauses : PausesSeen idleTimeout strides)
    (seen : ∀ slot projectId, stride.step = .usePool (.pauseIfHeld slot projectId) →
      ∃ row, SeenIdle idleTimeout strides row ∧ row.id = slot ∧ row.projectId = projectId) :
    PausesSeen idleTimeout (strides ++ [stride]) := by
  intro front pausing back slot projectId split paused
  rcases split_of_append split with ⟨rfl, rfl⟩ | ⟨rest, earlier⟩
  · obtain ⟨pool, clock, shape⟩ := paused
    exact seen slot projectId (congrArg Taken.step shape)
  · exact pauses front pausing rest slot projectId earlier paused

theorem Pass.fewer (pass : Pass idleTimeout (row :: rest) trail) : Pass idleTimeout rest trail :=
  ⟨fun other member => pass.seen other (List.mem_cons_of_mem _ member),
    (List.nodup_cons.mp pass.distinct).2, pass.pauses⟩

/-- A pass goes on with a step that spares the projects before it, and pauses only one of them. -/
theorem Pass.after (pass : Pass idleTimeout remaining trail) (step : Step) (answer : step.Answer)
    (spares : ∀ row ∈ remaining, step ≠ .usePool (.free row.projectId))
    (untouched : ∀ slot, step ≠ .usePool (.touch slot))
    (pauses : ∀ slot projectId, step = .usePool (.pauseIfHeld slot projectId) →
      ∃ row ∈ remaining, row.id = slot ∧ row.projectId = projectId) :
    Pass idleTimeout remaining (trail.after others now step answer) := by
  refine ⟨?_, pass.distinct, pass.pauses.append ?_⟩
  · intro row member
    exact (pass.seen row member).append ⟨spares row member, untouched⟩
  · intro slot projectId paused
    obtain ⟨row, member, place, own⟩ := pauses slot projectId paused
    exact ⟨row, pass.seen row member, place, own⟩

theorem Pass.look (pass : Pass idleTimeout remaining trail) :
    Pass idleTimeout remaining (trail.after others now .readClock now) :=
  pass.after _ _ (by simp) (by simp) (by simp)

theorem Pass.call (pass : Pass idleTimeout remaining trail) (call : Call) (answer : call.Answer) :
    Pass idleTimeout remaining (trail.after others now (.call call) answer) :=
  pass.after _ _ (by simp) (by simp) (by simp)

theorem Pass.pause (pass : Pass idleTimeout (row :: rest) trail)
    (reply : (PoolOp.pauseIfHeld row.id row.projectId).Reply) :
    Pass idleTimeout (row :: rest)
      (trail.after others now (.usePool (.pauseIfHeld row.id row.projectId)) reply) := by
  refine pass.after _ _ (by simp) (by simp) ?_
  intro slot projectId same
  obtain ⟨rfl, rfl⟩ := PoolOp.pauseIfHeld.inj (Step.usePool.inj same)
  exact ⟨row, List.mem_cons_self, rfl, rfl⟩

theorem Pass.free (pass : Pass idleTimeout (row :: rest) trail)
    (reply : (PoolOp.free row.projectId).Reply) :
    Pass idleTimeout rest (trail.after others now (.usePool (.free row.projectId)) reply) := by
  -- The project is freed when its row is done with, and the rows that remain are of others.
  have apart : row.projectId ∉ rest.map (·.projectId) := (List.nodup_cons.mp pass.distinct).1
  refine pass.fewer.after _ _ ?_ (by simp) (by simp)
  intro other member same
  have own : row.projectId = other.projectId := PoolOp.free.inj (Step.usePool.inj same)
  rw [own] at apart
  exact apart (List.mem_map_of_mem member)

theorem pauseIdle_pass (pass : Pass idleTimeout (row :: rest) trail) :
    Withstands (fun _ after => Pass idleTimeout rest after) (pauseIdle row) trail := by
  unfold pauseIdle
  refine .look fun others now => .use fun before pausedAt => ?_
  have looked : Pass idleTimeout (row :: rest) (trail.after others now .readClock now) := pass.look
  split
  · exact .pure (looked.pause _).fewer
  · refine .call fun between toldAt published => .call fun since clearedAt cleared => ?_
    refine .use fun later freedAt => .call fun last latest answer => .pure ?_
    exact ((((looked.pause _).call _ published).call _ cleared).free _).call _ answer

theorem pauseEach_pass (pass : Pass idleTimeout remaining trail) :
    Withstands (fun _ after => PausesSeen idleTimeout after.strides) (pauseEach remaining)
      trail := by
  induction remaining generalizing trail with
  | nil => exact .pure pass.pauses
  | cons row rest ih =>
      refine (pauseIdle_pass pass).seq fun freed after pass => ?_
      exact (ih pass).seq fun others after seen => .pure seen

theorem pauseIdleSlots_pass {start : Pool} (sound : start.Sound) :
    Withstands (fun _ after => PausesSeen idleTimeout after.strides) (pauseIdleSlots idleTimeout)
      (.start start) := by
  refine .use fun others now => ?_
  refine pauseEach_pass ⟨?_, ?_, pausesSeen_nil.append (by simp [Trail.stride])⟩
  · intro row found
    exact ⟨(Trail.start start).stride others now (.usePool (.idleRunning idleTimeout)) _, [], rfl,
      rfl, found, by simp⟩
  · exact (sound.run others).idleRunning_distinct idleTimeout now

end Passes

/-! ### What the pool shows when a pause is granted -/

theorem Taken.IsTold.granted {taken : Taken} (told : taken.IsTold)
    (pauses : taken.Pauses slot projectId) :
    (taken.pool.pauseIfHeld slot projectId).1 = .ok () := by
  obtain ⟨pool, now, shape⟩ := pauses
  cases told with
  | look => simp at shape
  | call => simp at shape
  | use found clock op =>
      simp only [Taken.mk.injEq, Step.usePool.injEq] at shape
      obtain ⟨rfl, rfl, rfl, same⟩ := shape
      exact eq_of_heq same

theorem idleFor_mono {left right : Slot} {earlier later : Millis}
    (same : right.lastActivity = left.lastActivity) (ordered : earlier ≤ later) :
    left.idleFor earlier ≤ right.idleFor later := by
  rw [UInt64.le_iff_toNat_le] at ordered ⊢
  rw [Slot.toNat_idleFor, Slot.toNat_idleFor, same]
  omega

/-- When idle slots are paused, whatever others do before each step, a slot is paused only if the
pass's own scan found it running, held by the project and idle for longer than the timeout, and it
runs and is held by the project still when it is paused. Unless others have freed the project or
noted activity in the slot since the scan, it has been idle ever since. -/
theorem pauses_follow_scan (slotCount : UInt32) (capacity : Nat) (start : Millis)
    (history : List Use) (company : Company) (idleTimeout : Span) :
    let pool := (Pool.create slotCount capacity start).run history
    let trail := ((Trail.start pool).run company (pauseIdleSlots idleTimeout)).2
    ∀ front pausing back slot projectId, trail.strides = front ++ pausing :: back →
      pausing.Pauses slot projectId →
      ∃ scan since seen row, front = scan :: since ∧
        scan.step = .usePool (.idleRunning idleTimeout) ∧
        seen ∈ scan.pool.slots ∧ seen.id = slot ∧ seen.holds projectId = true ∧
        seen.status = .running ∧ idleTimeout.word < seen.idleFor scan.now ∧
        pausing.pool.slot? slot = some row ∧ row.holds projectId = true ∧ row.status = .running ∧
        ((∀ use ∈ othersIn (since ++ [pausing]),
            use.op ≠ .free projectId ∧ use.op ≠ .touch slot) →
          row.lastActivity = seen.lastActivity ∧
          (scan.now ≤ pausing.now → idleTimeout.word < row.idleFor pausing.now)) := by
  intro pool trail front pausing back slot projectId split pauses
  have sound : pool.Sound := (Pool.create_sound slotCount capacity start).run history
  have follows : trail.Follows pool := run_follows (start_follows pool) company _
  have passed : PausesSeen idleTimeout trail.strides := (pauseIdleSlots_pass sound).run company
  obtain ⟨seen, ⟨scan, since, rfl, scans, found, spared⟩, rfl, rfl⟩ :=
    passed front pausing back slot projectId split pauses
  obtain ⟨member, busy, running, idle⟩ := Pool.mem_idleRunning.mp found
  have first : trail.strides = [] ++ scan :: (since ++ pausing :: back) := split
  have scanSound := follows.sound_at sound first
  have held := (scanSound.consistent seen member).holds_iff.mpr ⟨busy, rfl⟩
  have soundThere := follows.sound_at sound split
  have granted := (follows.strides _ pausing back split).2.granted pauses
  have rewrites : pausing.pool.Rewrites 0 (.pauseIfHeld seen.id seen.projectId) seen.id :=
    Pool.pauseIfHeld_rewrites soundThere granted
  obtain ⟨row, shown, admitted, -⟩ := rewrites
  simp only [PoolOp.admits, Bool.and_eq_true, beq_iff_eq] at admitted
  refine ⟨scan, since, seen, row, rfl, scans, member, rfl, held, running, idle, shown, admitted.1,
    admitted.2, ?_⟩
  intro kept
  -- The pool of the pause is what the steps since the scan made of the pool that was scanned.
  have regrouped : trail.strides = [] ++ scan :: since ++ pausing :: back := split
  have reached := follows.pool_since regrouped
  have left : scan.left = scan.pool := by
    rw [Taken.left, scans]
    rfl
  have found := (Pool.slot?_eq_some_iff scanSound).mpr ⟨member, rfl⟩
  obtain ⟨last, foundLast, -, same⟩ := Pool.run_keeps_holder scanSound _ found held
    (kept_between (fun own inside => (spared own inside).1) fun use inside => (kept use inside).1)
  rw [left] at reached
  rw [← reached, shown] at foundLast
  obtain rfl : row = last := Option.some.inj foundLast
  have activity := same (kept_between (fun own inside => (spared own inside).2 seen.id)
    fun use inside => (kept use inside).2)
  exact ⟨activity, fun ordered => UInt64.lt_of_lt_of_le idle (idleFor_mono activity ordered)⟩

/-! ### Slots in use -/

/-- Two slots that have been idle since the clock read zero. -/
def twoIdle : Pool :=
  (Pool.create 2 0 0).run
    [⟨0, 0, .claim ⟨1⟩ "first" "session"⟩, ⟨0, 0, .claim ⟨2⟩ "second" "session"⟩]

/-- Others use the pool while the first of two slots is being cleared, half an hour later. -/
def whileClearing (uses : List Use) : Company :=
  { Company.interfering 5 uses with reading := fun _ => 1800001 }

theorem twoIdle_scan :
    (twoIdle.perform 1800001 (.idleRunning (Span.ofMinutes 30))).1 = twoIdle.slots :=
  List.mergeSort_of_pairwise (by decide +kernel)

/-- The second slot is paused at a moment when it has not been idle at all, and is cleared. -/
def PausedInUse (trail : Trail) : Prop :=
  (∃ pausing ∈ trail.strides, pausing.step = .usePool (.pauseIfHeld ⟨2⟩ "second") ∧
    (pausing.pool.slot? ⟨2⟩).map (·.idleFor pausing.now) = some 0 ∧
    (pausing.left.slot? ⟨2⟩).map (·.status) = some .paused) ∧
  ∃ clearing ∈ trail.strides, clearing.Clears ⟨2⟩ "second"

instance (trail : Trail) : Decidable (PausedInUse trail) :=
  inferInstanceAs (Decidable (_ ∧ _))

/-- Others note activity in the second slot meanwhile, or free its project and claim the slot for it
anew. It is paused and cleared all the same. -/
theorem used_slot_can_be_paused :
    let pass (uses : List Use) := ((Trail.start twoIdle).run (whileClearing uses)
      (pauseIdleSlots (Span.ofMinutes 30))).2
    PausedInUse (pass [⟨1, 1800001, .touch ⟨2⟩⟩]) ∧
      PausedInUse (pass [⟨1, 1800001, .free "second"⟩,
        ⟨1, 1800001, .claim ⟨2⟩ "second" "session"⟩]) := by
  -- A sort does not compute, so the rows that the scan finds are put in by hand.
  have scanned (uses : List Use) : (Trail.start twoIdle).run (whileClearing uses)
      (pauseIdleSlots (Span.ofMinutes 30)) =
    ((Trail.start twoIdle).after [] 1800001 (.usePool (.idleRunning (Span.ofMinutes 30)))
      twoIdle.slots).run (whileClearing uses) (pauseEach twoIdle.slots) :=
    congrArg (fun rows => ((Trail.start twoIdle).after [] 1800001 (.usePool (.idleRunning _))
      rows).run (whileClearing uses) (pauseEach rows)) twoIdle_scan
  simp only [scanned]
  decide +kernel

end Workflow

end WorkspacePool
