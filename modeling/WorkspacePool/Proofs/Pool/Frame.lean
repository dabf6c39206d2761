import WorkspacePool.Proofs.Pool.History

/-!
What a use of a pool leaves as it was. A use changes the row of one slot at most, and its reply
tells which. An operation on slots does not look at the queue and leaves it alone.
-/

namespace WorkspacePool

/-- The slot whose row a reply says to be changed. -/
def PoolOp.target? : (op : PoolOp) → op.Reply → Option SlotId
  | .claim slot _ _, .ok () => some slot
  | .free _, .ok slot => some slot
  | .claimNext, some (slot, _) => some slot
  | .mark slot _, .ok () => some slot
  | .pauseIfHeld slot _, .ok () => some slot
  | .touch slot, .ok () => some slot
  | _, _ => none

/-- An operation that neither looks at the queue nor changes it. -/
def PoolOp.onSlots : PoolOp → Bool
  | .enqueue _ | .dequeue | .claimNext | .withdraw _ | .position _ => false
  | _ => true

namespace Pool

variable {pool : Pool} {slots before after : List Slot} {old new row : Slot} {id slot : SlotId}
  {projectId sessionId : String} {now : Millis}

theorem Replaced.new_mem (replaced : Replaced old new before after) : new ∈ after := by
  obtain ⟨front, back, -, rfl⟩ := replaced
  simp

theorem Replaced.find?_eq (replaced : Replaced old new before after) {test : Slot → Bool}
    (oldMissed : test old = false) (newMissed : test new = false) :
    after.find? test = before.find? test := by
  obtain ⟨front, back, rfl, rfl⟩ := replaced
  simp [oldMissed, newMissed]

theorem slot?_replace (replaced : Replaced old new pool.slots slots) (sameId : new.id = old.id)
    (away : slot ≠ old.id) : slot? { pool with slots } slot = pool.slot? slot :=
  replaced.find?_eq (by simpa using Ne.symm away) (by simpa [sameId] using Ne.symm away)

theorem slot?_updateSlot {change : Slot → Slot} (found : pool.slot? id = some row)
    (sameId : (change row).id = row.id) (away : slot ≠ id) :
    (pool.updateSlot id change).slot? slot = pool.slot? slot := by
  obtain ⟨rfl, slots, replaced, same⟩ := updateSlot_replaced change found
  rw [same, slot?_replace replaced sameId away]

theorem claim_frame (away : (PoolOp.claim id projectId sessionId).target?
      (pool.claim id projectId sessionId now).1 ≠ some slot) :
    (pool.claim id projectId sessionId now).2.slot? slot = pool.slot? slot := by
  revert away
  unfold claim
  split
  · exact fun _ => rfl
  · split
    · exact fun _ => rfl
    · split
      · exact fun _ => rfl
      · next row found =>
        split
        · exact fun _ => rfl
        · intro away
          exact slot?_updateSlot found rfl (by simpa [PoolOp.target?, eq_comm] using away)

theorem free_frame (away : (PoolOp.free projectId).target? (pool.free projectId now).1 ≠
      some slot) : (pool.free projectId now).2.slot? slot = pool.slot? slot := by
  revert away
  unfold free
  split
  · exact fun _ => rfl
  · next row found =>
    intro away
    exact slot?_replace (updateFirst_replaced _ found) rfl
      (by simpa [PoolOp.target?, eq_comm] using away)

theorem claimNext_frame (sound : pool.Sound)
    (away : PoolOp.claimNext.target? (pool.claimNext now).1 ≠ some slot) :
    (pool.claimNext now).2.slot? slot = pool.slot? slot := by
  revert away
  unfold claimNext
  rcases claimFor_cases sound now pool.waiting with ⟨-, result⟩ | ⟨-, result⟩ |
    ⟨discarded, request, rest, row, slots, -, -, -, -, -, replaced, result⟩
  · rw [result]
    exact fun _ => rfl
  · rw [result]
    exact fun _ => rfl
  · rw [result]
    intro away
    exact slot?_replace replaced rfl (by simpa [PoolOp.target?, eq_comm] using away)

theorem mark_frame {status : SlotStatus}
    (away : (PoolOp.mark id status).target? (pool.mark id status).1 ≠ some slot) :
    (pool.mark id status).2.slot? slot = pool.slot? slot := by
  revert away
  unfold mark
  split
  · exact fun _ => rfl
  · next row found =>
    split
    · intro away
      exact slot?_updateSlot found rfl (by simpa [PoolOp.target?, eq_comm] using away)
    · exact fun _ => rfl

theorem pauseIfHeld_frame (away : (PoolOp.pauseIfHeld id projectId).target?
      (pool.pauseIfHeld id projectId).1 ≠ some slot) :
    (pool.pauseIfHeld id projectId).2.slot? slot = pool.slot? slot := by
  revert away
  unfold pauseIfHeld
  split
  · exact fun _ => rfl
  · next row found =>
    split
    · exact fun _ => rfl
    · split
      · exact fun _ => rfl
      · intro away
        exact slot?_updateSlot found rfl (by simpa [PoolOp.target?, eq_comm] using away)

theorem touch_frame (away : (PoolOp.touch id).target? (pool.touch id now).1 ≠ some slot) :
    (pool.touch id now).2.slot? slot = pool.slot? slot := by
  revert away
  unfold touch
  split
  · exact fun _ => rfl
  · next row found =>
    intro away
    exact slot?_updateSlot found rfl (by simpa [PoolOp.target?, eq_comm] using away)

theorem enqueue_frame {request : Request} : (pool.enqueue request).2.slots = pool.slots := by
  unfold enqueue
  split
  · rfl
  · split
    · rfl
    · split <;> rfl

theorem dequeue_frame : pool.dequeue.2.slots = pool.slots := by
  unfold dequeue
  split <;> rfl

theorem withdraw_frame : (pool.withdraw projectId).2.slots = pool.slots := by
  unfold withdraw
  split <;> rfl

theorem slot?_congr {other : Pool} (same : other.slots = pool.slots) :
    other.slot? slot = pool.slot? slot := by
  rw [slot?, slot?, same]

/-- A use leaves the rows of all slots but its target as they were. -/
theorem perform_frame (sound : pool.Sound) (now : Millis) (op : PoolOp)
    (away : op.target? (pool.perform now op).1 ≠ some slot) :
    (pool.perform now op).2.slot? slot = pool.slot? slot := by
  cases op with
  | claim id projectId sessionId => exact claim_frame away
  | free projectId => exact free_frame away
  | enqueue request => exact slot?_congr enqueue_frame
  | dequeue => exact slot?_congr dequeue_frame
  | claimNext => exact claimNext_frame sound away
  | withdraw projectId => exact slot?_congr withdraw_frame
  | mark id status => exact mark_frame away
  | pauseIfHeld id projectId => exact pauseIfHeld_frame away
  | touch id => exact touch_frame away
  | findFree => rfl
  | position projectId => rfl
  | holder projectId => rfl
  | idleRunning limit => rfl

theorem mark_slot? (sound : pool.Sound) {status : SlotStatus}
    (marked : (pool.mark id status).1 = .ok ()) :
    ∃ row, pool.slot? id = some row ∧
      (pool.mark id status).2.slot? id = some { row with status } := by
  have effect : Effect pool 0 (.mark id status) _ _ := mark_effect
  have after := effect.sound sound
  revert marked after
  unfold mark
  split
  · simp
  · next row found =>
    split
    · intro _ after
      obtain ⟨rfl, slots, replaced, same⟩ := updateSlot_replaced ({ · with status }) found
      rw [same] at after ⊢
      exact ⟨row, found, (slot?_eq_some_iff after).mpr ⟨replaced.new_mem, rfl⟩⟩
    · simp

/-! ### Operations beside the queue -/

section Beside

variable {op : PoolOp} {id : SlotId} {projectId : String} (pool : Pool) (waiting : List Request)

theorem slot?_beside : slot? { pool with waiting } id = pool.slot? id := rfl

theorem holder?_beside : holder? { pool with waiting } projectId = pool.holder? projectId := rfl

theorem holderElsewhere?_beside :
    holderElsewhere? { pool with waiting } projectId id = pool.holderElsewhere? projectId id := rfl

theorem updateSlot_beside {change : Slot → Slot} :
    updateSlot { pool with waiting } id change = { pool.updateSlot id change with waiting } := rfl

/-- What an operation on the slots makes of them and replies does not depend on the queue, and the
queue is left alone. -/
theorem perform_beside (now : Millis) (onSlots : op.onSlots = true) :
    perform { pool with waiting } now op =
      ((pool.perform now op).1, { (pool.perform now op).2 with waiting }) := by
  cases op with
  | findFree => rfl
  | holder projectId => rfl
  | idleRunning limit => rfl
  | claim id projectId sessionId =>
      simp only [perform, claim, holderElsewhere?_beside, slot?_beside, updateSlot_beside]
      split
      · rfl
      · cases pool.holderElsewhere? projectId id with
        | some holder => rfl
        | none =>
            cases pool.slot? id with
            | none => rfl
            | some row => by_cases busy : row.isBusy = true <;> simp [busy]
  | free projectId =>
      simp only [perform, free, holder?_beside]
      cases pool.holder? projectId <;> rfl
  | mark id status =>
      simp only [perform, mark, slot?_beside, updateSlot_beside]
      cases pool.slot? id with
      | none => rfl
      | some row => by_cases allowed : allows row status = true <;> simp [allowed]
  | pauseIfHeld id projectId =>
      simp only [perform, pauseIfHeld, slot?_beside, updateSlot_beside]
      cases pool.slot? id with
      | none => rfl
      | some row =>
          by_cases held : row.holds projectId = true <;>
            by_cases running : row.status = .running <;> simp [held, running]
  | touch id =>
      simp only [perform, touch, slot?_beside, updateSlot_beside]
      cases pool.slot? id <;> rfl
  | _ => contradiction

theorem perform_waiting (op : PoolOp) (now : Millis) (onSlots : op.onSlots = true) :
    (pool.perform now op).2.waiting = pool.waiting :=
  congrArg (·.2.waiting) (perform_beside pool pool.waiting now onSlots)

end Beside

end Pool

end WorkspacePool
