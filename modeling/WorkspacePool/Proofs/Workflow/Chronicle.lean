import WorkspacePool.Proofs.Pool.Rewriting
import WorkspacePool.Proofs.Workflow.Exclusion

/-!
The log of a floor as the chronicle of its pool: every step found the pool that the step before it
left. So what the pool shows can be traced back to the step that brought it about, a tenant to the
claim of its slot (`Chronicle.claimed`) and a paused slot to its mark (`Chronicle.marked`).
-/

namespace WorkspacePool.Workflow

variable {start pool : Pool} {log earlier later : List Entry} {entry : Entry} {row : Slot}
  {slot : SlotId} {projectId : String}

/-! ### One step -/

namespace Taken

variable {taken : Taken}

/-- The step has marked the slot paused, by name or because it held a project. -/
def Marks (taken : Taken) (slot : SlotId) : Prop :=
  taken.step = .usePool (.mark slot .paused) ∨ ∃ owner, taken.Pauses slot owner

theorem IsTold.held_kept (told : taken.IsTold) (sound : taken.pool.Sound)
    (held : HeldBy taken.pool slot projectId)
    (kept : taken.booking? ≠ some (.free slot projectId)) : HeldBy taken.left slot projectId := by
  obtain ⟨session, served⟩ := tenant?_of_heldBy sound held
  exact heldBy_of_tenant? (sound_leave sound _ _) (told.tenant_kept sound served kept)

theorem IsTold.held_before (told : taken.IsTold) (sound : taken.pool.Sound)
    (held : HeldBy taken.left slot projectId) :
    HeldBy taken.pool slot projectId ∨ taken.booking? = some (.claim slot projectId) := by
  cases told with
  | look pool now => exact .inl held
  | call pool now call answer => exact .inl held
  | use pool now op =>
      by_cases before : HeldBy pool slot projectId
      · exact .inl before
      · obtain ⟨session, served⟩ := tenant?_of_heldBy (sound_leave sound now (.usePool op)) held
        refine .inr ((Pool.perform_effect sound now op).tenant_arrives sound ?_ served)
        exact fun other there => before (heldBy_of_tenant? sound there)

theorem IsTold.held_of_claimed (told : taken.IsTold) (sound : taken.pool.Sound)
    (claimed : taken.booking? = some (.claim slot projectId)) :
    HeldBy taken.left slot projectId := by
  have transfers := told.transfers sound
  rw [claimed] at transfers
  obtain ⟨-, -, session, changed⟩ := transfers
  have served : taken.left.tenant? slot = some (projectId, session) := by
    rw [changed, Function.update_self]
  exact heldBy_of_tenant? (sound_leave sound _ _) served

theorem IsTold.unfreed_of_held (told : taken.IsTold) (sound : taken.pool.Sound)
    (held : HeldBy taken.left slot projectId) :
    taken.booking? ≠ some (.free slot projectId) := by
  intro freed
  have transfers := told.transfers sound
  rw [freed] at transfers
  obtain ⟨-, -, changed⟩ := transfers
  obtain ⟨session, served⟩ := tenant?_of_heldBy (sound_leave sound _ _) held
  have vacant : taken.left.tenant? slot = none := by rw [changed, Function.update_self]
  rw [Taken.left, served] at vacant
  contradiction

theorem IsTold.frees_held (told : taken.IsTold) (sound : taken.pool.Sound)
    (held : HeldBy taken.pool slot projectId)
    (frees : taken.step = .usePool (.free projectId)) :
    taken.booking? = some (.free slot projectId) := by
  cases told with
  | look pool now => contradiction
  | call pool now call answer => contradiction
  | use pool now op =>
      obtain rfl := Step.usePool.inj frees
      obtain ⟨row, member, rfl, holds⟩ := held
      have found : pool.holder? projectId = some row :=
        (Pool.holder?_eq_some_iff sound).mpr ⟨member, holds⟩
      simp [booking?, Pool.perform, Pool.free, found, PoolOp.booking?]

theorem IsTold.not_misses (told : taken.IsTold) (sound : taken.pool.Sound)
    (held : HeldBy taken.pool slot projectId) : ¬ taken.Misses projectId := by
  rintro ⟨found, clock, shape⟩
  cases told with
  | look pool now => simp at shape
  | call pool now call answer => simp at shape
  | use pool now op =>
      simp only [Taken.mk.injEq, Step.usePool.injEq] at shape
      obtain ⟨rfl, rfl, rfl, missed⟩ := shape
      obtain ⟨session, served⟩ := tenant?_of_heldBy sound held
      exact sound.not_hosts (eq_of_heq missed) ⟨slot, session, served⟩

theorem target?_of_claimed {op : PoolOp} {reply : op.Reply} {claimant : String}
    (claimed : op.booking? reply = some (.claim slot claimant)) :
    op.target? reply = some slot := by
  cases op with
  | claim place owner session =>
      cases reply with
      | ok done =>
          simp only [PoolOp.booking?, Option.some.injEq, Booking.claim.injEq] at claimed
          exact congrArg some claimed.1
      | error reason => contradiction
  | claimNext =>
      cases reply with
      | some served =>
          simp only [PoolOp.booking?, Option.some.injEq, Booking.claim.injEq] at claimed
          exact congrArg some claimed.1
      | none => contradiction
  | free owner => cases reply <;> simp [PoolOp.booking?] at claimed
  | _ => contradiction

theorem paused_of_rewrite {now : Millis} {op : PoolOp} {reply : op.Reply} {before : Slot}
    (found : pool.slot? slot = some before) (target : op.target? reply = some slot)
    (paused : (op.rewrite now reply before).status = .paused) :
    Taken.Marks ⟨pool, now, .usePool op, reply⟩ slot ∨
      (∃ before, pool.slot? slot = some before ∧ before.status = .paused) ∧
        ∀ claimant, op.booking? reply ≠ some (.claim slot claimant) := by
  cases op with
  | claim place owner session => simp [PoolOp.rewrite, Slot.occupy] at paused
  | free owner => simp [PoolOp.rewrite, Slot.clear, Slot.free] at paused
  | claimNext =>
      cases reply with
      | some served => simp [PoolOp.rewrite, Slot.occupy] at paused
      | none => simp [PoolOp.target?] at target
  | mark place status =>
      cases reply with
      | error reason => simp [PoolOp.target?] at target
      | ok done =>
          obtain rfl : place = slot := by simpa [PoolOp.target?] using target
          obtain rfl : status = .paused := paused
          exact .inl (.inl rfl)
  | pauseIfHeld place owner =>
      cases reply with
      | error reason => simp [PoolOp.target?] at target
      | ok done =>
          obtain rfl : place = slot := by simpa [PoolOp.target?] using target
          exact .inl (.inr ⟨owner, pool, now, rfl⟩)
  | touch place => exact .inr ⟨⟨before, found, paused⟩, by simp [PoolOp.booking?]⟩
  | _ => simp [PoolOp.target?] at target

/-- A slot is paused after a step if the step marked it, or if it was paused before and the step did
not claim it. -/
theorem IsTold.paused_before (told : taken.IsTold) (sound : taken.pool.Sound)
    (shown : taken.left.slot? slot = some row) (paused : row.status = .paused) :
    taken.Marks slot ∨
      (∃ before, taken.pool.slot? slot = some before ∧ before.status = .paused) ∧
        ∀ claimant, taken.booking? ≠ some (.claim slot claimant) := by
  cases told with
  | look pool now => exact .inr ⟨⟨row, shown, paused⟩, by simp [booking?]⟩
  | call pool now call answer => exact .inr ⟨⟨row, shown, paused⟩, by simp [booking?]⟩
  | use pool now op =>
      -- Only a use that targets the slot changes its row, and then the row tells which use it was.
      by_cases target : op.target? (pool.perform now op).1 = some slot
      · obtain ⟨before, found, -, rewritten⟩ := Pool.perform_rewrites sound now op target
        obtain rfl := Option.some.inj (shown.symm.trans rewritten)
        exact paused_of_rewrite found target paused
      · refine .inr ⟨⟨row, ?_, paused⟩, fun claimant claimed => target (target?_of_claimed claimed)⟩
        rw [← Pool.perform_frame sound now op target]
        exact shown

end Taken

/-! ### The whole log -/

/-- The log leads from one pool to another. -/
inductive Chronicle (start : Pool) : List Entry → Pool → Prop where
  | nil : Chronicle start [] start
  | append {log : List Entry} {entry : Entry} (before : Chronicle start log entry.pool)
      (told : entry.IsTold) : Chronicle start (log ++ [entry]) entry.left

/-- The project was not freed from the slot. -/
def Unfreed (since : List Entry) (slot : SlotId) (projectId : String) : Prop :=
  ∀ entry ∈ since, entry.booking? ≠ some (.free slot projectId)

namespace Chronicle

variable (chronicle : Chronicle start log pool) (sound : start.Sound)

include chronicle

theorem before (split : log = earlier ++ entry :: later) :
    Chronicle start earlier entry.pool ∧ entry.IsTold := by
  induction chronicle generalizing later with
  | nil => simp at split
  | append first told ih =>
      rcases split_of_append split with ⟨rfl, rfl⟩ | ⟨rest, split⟩
      · exact ⟨first, told⟩
      · exact ih split

include sound

theorem sound_end : pool.Sound := by
  induction chronicle with
  | nil => exact sound
  | append before told ih => exact sound_leave ih _ _

/-- Who holds a slot after an entry holds it until it is freed. -/
theorem stays (split : log = earlier ++ entry :: later) (held : HeldBy entry.left slot projectId)
    (unfreed : Unfreed later slot projectId) : HeldBy pool slot projectId := by
  induction chronicle generalizing later with
  | nil => simp at split
  | @append log new before told ih =>
      rcases split_of_append split with ⟨rfl, rfl⟩ | ⟨rest, shorter⟩
      · exact held
      · obtain rfl : rest ++ [new] = later := by simpa [shorter] using split
        have there := ih shorter fun other member => unfreed other (List.mem_append_left _ member)
        exact told.held_kept (before.sound_end sound) there (unfreed new (by simp))

/-- Whoever holds a slot had it claimed and was not freed since. -/
theorem claimed (vacant : ∀ row ∈ start.slots, row.isBusy = false)
    (held : HeldBy pool slot projectId) :
    ∃ earlier claiming later, log = earlier ++ claiming :: later ∧
      claiming.booking? = some (.claim slot projectId) ∧ Unfreed later slot projectId := by
  induction chronicle with
  | nil =>
      obtain ⟨row, member, -, holds⟩ := held
      have busy := (Slot.holds_iff.mp holds).1
      rw [vacant row member] at busy
      contradiction
  | @append log new before told ih =>
      have soundBefore := before.sound_end sound
      rcases told.held_before soundBefore held with there | claims
      · obtain ⟨earlier, claiming, later, rfl, booked, unfreed⟩ := ih there
        have kept := told.unfreed_of_held soundBefore held
        refine ⟨earlier, claiming, later ++ [new], by simp, booked, ?_⟩
        exact List.forall_mem_append.mpr ⟨unfreed, List.forall_mem_singleton.mpr kept⟩
      · exact ⟨log, new, [], rfl, claims, by simp [Unfreed]⟩

/-- A slot that is paused was marked so and not claimed since. -/
theorem marked (vacant : ∀ row ∈ start.slots, row.isBusy = false)
    (shown : pool.slot? slot = some row) (paused : row.status = .paused) :
    ∃ earlier marking later, log = earlier ++ marking :: later ∧ marking.Marks slot ∧
      ∀ entry ∈ later, ∀ claimant, entry.booking? ≠ some (.claim slot claimant) := by
  induction chronicle generalizing row with
  | nil =>
      have member := ((Pool.slot?_eq_some_iff sound).mp shown).1
      have busy := (sound.consistent row member).busy_iff_status.mpr (by simp [paused])
      rw [vacant row member] at busy
      contradiction
  | @append log new before told ih =>
      rcases told.paused_before (before.sound_end sound) shown paused with
        marks | ⟨⟨last, found, still⟩, unclaimed⟩
      · exact ⟨log, new, [], rfl, marks, by simp⟩
      · obtain ⟨earlier, marking, later, rfl, marks, kept⟩ := ih found still
        refine ⟨earlier, marking, later ++ [new], by simp, marks, ?_⟩
        exact List.forall_mem_append.mpr ⟨kept, List.forall_mem_singleton.mpr unclaimed⟩

end Chronicle

/-! ### Floors -/

variable {brokerUrl : String}

theorem Chronicle.run {floor : Floor} (chronicle : Chronicle start floor.log floor.pool)
    (turns : List Turn) :
    Chronicle start (floor.run brokerUrl turns).log (floor.run brokerUrl turns).pool := by
  apply Floor.run_keeps (fun floor => Chronicle start floor.log floor.pool) _ _ turns chronicle
  · exact fun floor worker operation chronicle _ => chronicle
  · exact fun floor worker now answers step next chronicle _ =>
      .append chronicle (Taken.isTold_respond floor.pool now step answers)

end WorkspacePool.Workflow
