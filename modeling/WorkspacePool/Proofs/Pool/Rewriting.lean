import WorkspacePool.Proofs.Pool.Frame

/-!
What a use of a pool makes of the row that it changes. A use changes only such rows as it admits,
and each in its own way, so a row tells what was done with it.
-/

namespace WorkspacePool

namespace PoolOp

/-- The rows that a use changes if it changes any. -/
def admits : PoolOp → Slot → Bool
  | .claim _ _ _, row | .claimNext, row => !row.isBusy
  | .free projectId, row => row.holds projectId
  | .mark _ status, row => Pool.allows row status
  | .pauseIfHeld _ projectId, row => row.holds projectId && row.status == .running
  | _, _ => true

/-- The row that a use leaves behind, by its reply. -/
def rewrite (now : Millis) : (op : PoolOp) → op.Reply → Slot → Slot
  | .claim _ projectId sessionId, _, row => row.occupy projectId sessionId now
  | .free _, _, row => row.clear now
  | .claimNext, some (_, request), row => row.occupy request.projectId request.sessionId now
  | .mark _ status, _, row => { row with status }
  | .pauseIfHeld _ _, _, row => { row with status := .paused }
  | .touch _, _, row => { row with lastActivity := now }
  | _, _, row => row

end PoolOp

namespace Pool

variable {pool : Pool} {row : Slot} {id slot : SlotId} {projectId sessionId : String}
  {now : Millis} {op : PoolOp}

/-- A use has rewritten the row of a slot that it admits. -/
def Rewrites (pool : Pool) (now : Millis) (op : PoolOp) (slot : SlotId) : Prop :=
  ∃ row, pool.slot? slot = some row ∧ op.admits row = true ∧
    (pool.perform now op).2.slot? slot = some (op.rewrite now (pool.perform now op).1 row)

theorem rewrites_of_update (sound : pool.Sound) (found : pool.slot? id = some row)
    (admitted : op.admits row = true)
    (sameId : (op.rewrite now (pool.perform now op).1 row).id = row.id)
    (updated : (pool.perform now op).2 =
      pool.updateSlot id (op.rewrite now (pool.perform now op).1)) : pool.Rewrites now op id := by
  have after := (perform_effect sound now op).sound sound
  obtain ⟨rfl, slots, replaced, same⟩ :=
    updateSlot_replaced (op.rewrite now (pool.perform now op).1) found
  refine ⟨row, found, admitted, ?_⟩
  rw [updated, same] at after ⊢
  exact (slot?_eq_some_iff after).mpr ⟨replaced.new_mem, sameId⟩

theorem claim_rewrites (sound : pool.Sound)
    (granted : (pool.claim id projectId sessionId now).1 = .ok ()) :
    pool.Rewrites now (.claim id projectId sessionId) id := by
  have claimed : ∃ row, pool.slot? id = some row ∧ row.isBusy = false ∧
      (pool.claim id projectId sessionId now).2 =
        pool.updateSlot id (·.occupy projectId sessionId now) := by
    revert granted
    unfold claim
    split
    · simp
    · split
      · simp
      · split
        · simp
        · next row found =>
          split
          · simp
          · next free => exact fun _ => ⟨row, found, by simpa using free, rfl⟩
  obtain ⟨row, found, free, updated⟩ := claimed
  exact rewrites_of_update sound found (by simpa [PoolOp.admits] using free) rfl updated

theorem free_rewrites (sound : pool.Sound) (freed : (pool.free projectId now).1 = .ok id) :
    pool.Rewrites now (.free projectId) id := by
  have after := (perform_effect sound now (.free projectId)).sound sound
  cases holder : pool.holder? projectId with
  | none => simp [free, holder] at freed
  | some row =>
      obtain rfl : row.id = id := by simpa [free, holder] using freed
      obtain ⟨member, held⟩ := (holder?_eq_some_iff sound).mp holder
      have replaced := updateFirst_replaced (·.clear now) holder
      refine ⟨row, (slot?_eq_some_iff sound).mpr ⟨member, rfl⟩, held, ?_⟩
      simp only [perform, free, holder] at after ⊢
      exact (slot?_eq_some_iff after).mpr ⟨replaced.new_mem, rfl⟩

theorem claimNext_rewrites (sound : pool.Sound) {request : Request}
    (served : (pool.claimNext now).1 = some (id, request)) :
    pool.Rewrites now .claimNext id := by
  have after := (perform_effect sound now .claimNext).sound sound
  rcases claimFor_cases sound now pool.waiting with ⟨-, result⟩ | ⟨-, result⟩ |
    ⟨discarded, head, rest, row, slots, -, -, -, -, free, replaced, result⟩
  · simp [claimNext, result] at served
  · simp [claimNext, result] at served
  · obtain ⟨rfl, rfl⟩ : row.id = id ∧ head = request := by
      simpa [claimNext, result] using served
    refine ⟨row, (slot?_eq_some_iff sound).mpr ⟨replaced.old_mem, rfl⟩, ?_, ?_⟩
    · simpa [PoolOp.admits] using free
    · simp only [perform, claimNext, result] at after ⊢
      exact (slot?_eq_some_iff after).mpr ⟨replaced.new_mem, rfl⟩

theorem mark_rewrites (sound : pool.Sound) {status : SlotStatus}
    (marked : (pool.mark id status).1 = .ok ()) : pool.Rewrites now (.mark id status) id := by
  have allowed : ∃ row, pool.slot? id = some row ∧ allows row status = true ∧
      (pool.mark id status).2 = pool.updateSlot id ({ · with status }) := by
    revert marked
    unfold mark
    split
    · simp
    · next row found =>
      split
      · next allowed => exact fun _ => ⟨row, found, allowed, rfl⟩
      · simp
  obtain ⟨row, found, allowed, updated⟩ := allowed
  exact rewrites_of_update sound found allowed rfl updated

theorem pauseIfHeld_rewrites (sound : pool.Sound)
    (granted : (pool.pauseIfHeld id projectId).1 = .ok ()) :
    pool.Rewrites now (.pauseIfHeld id projectId) id := by
  have paused : ∃ row, pool.slot? id = some row ∧ row.holds projectId = true ∧
      row.status = .running ∧
      (pool.pauseIfHeld id projectId).2 = pool.updateSlot id ({ · with status := .paused }) := by
    revert granted
    unfold pauseIfHeld
    split
    · simp
    · next row found =>
      split
      · simp
      · next held =>
        split
        · simp
        · next running =>
          exact fun _ => ⟨row, found, by simpa using held, by simpa using running, rfl⟩
  obtain ⟨row, found, held, running, updated⟩ := paused
  exact rewrites_of_update sound found (by simp [PoolOp.admits, held, running]) rfl updated

theorem touch_rewrites (sound : pool.Sound) (touched : (pool.touch id now).1 = .ok ()) :
    pool.Rewrites now (.touch id) id := by
  cases found : pool.slot? id with
  | none => simp [touch, found] at touched
  | some row => exact rewrites_of_update sound found rfl rfl (by simp [perform, touch, found]; rfl)

theorem perform_rewrites (sound : pool.Sound) (now : Millis) (op : PoolOp)
    (target : op.target? (pool.perform now op).1 = some slot) : pool.Rewrites now op slot := by
  cases op with
  | claim id projectId sessionId =>
      cases result : (pool.claim id projectId sessionId now).1 with
      | error reason => simp [perform, result, PoolOp.target?] at target
      | ok done =>
          obtain rfl : id = slot := by simpa [perform, result, PoolOp.target?] using target
          exact claim_rewrites sound result
  | free projectId =>
      cases result : (pool.free projectId now).1 with
      | error reason => simp [perform, result, PoolOp.target?] at target
      | ok freed =>
          obtain rfl : freed = slot := by simpa [perform, result, PoolOp.target?] using target
          exact free_rewrites sound result
  | mark id status =>
      cases result : (pool.mark id status).1 with
      | error reason => simp [perform, result, PoolOp.target?] at target
      | ok done =>
          obtain rfl : id = slot := by simpa [perform, result, PoolOp.target?] using target
          exact mark_rewrites sound result
  | pauseIfHeld id projectId =>
      cases result : (pool.pauseIfHeld id projectId).1 with
      | error reason => simp [perform, result, PoolOp.target?] at target
      | ok done =>
          obtain rfl : id = slot := by simpa [perform, result, PoolOp.target?] using target
          exact pauseIfHeld_rewrites sound result
  | touch id =>
      cases result : (pool.touch id now).1 with
      | error reason => simp [perform, result, PoolOp.target?] at target
      | ok done =>
          obtain rfl : id = slot := by simpa [perform, result, PoolOp.target?] using target
          exact touch_rewrites sound result
  | claimNext =>
      cases result : (pool.claimNext now).1 with
      | none => simp [perform, result, PoolOp.target?] at target
      | some served =>
          obtain rfl : served.1 = slot := by simpa [perform, result, PoolOp.target?] using target
          exact claimNext_rewrites sound result
  | _ => simp [PoolOp.target?] at target

/-! ### Slots that are kept -/

/-- A slot that is not taken from its project is held by it still, and shows the same time of its
last activity unless activity is noted there. -/
theorem perform_keeps_holder (sound : pool.Sound) (now : Millis)
    (found : pool.slot? slot = some row) (held : row.holds projectId = true)
    (kept : op ≠ .free projectId) :
    ∃ after, (pool.perform now op).2.slot? slot = some after ∧ after.holds projectId = true ∧
      (op ≠ .touch slot → after.lastActivity = row.lastActivity) := by
  by_cases target : op.target? (pool.perform now op).1 = some slot
  · obtain ⟨same, again, admitted, rewritten⟩ := perform_rewrites sound now op target
    obtain rfl : row = same := Option.some.inj (found.symm.trans again)
    refine ⟨_, rewritten, ?_⟩
    have busy := (Slot.holds_iff.mp held).1
    cases op with
    | claim id claimant session => simp [PoolOp.admits, busy] at admitted
    | claimNext => simp [PoolOp.admits, busy] at admitted
    | free leaver =>
        have other := (Slot.holds_iff.mp admitted).2.2
        rw [(Slot.holds_iff.mp held).2.2] at other
        exact absurd (by rw [other]) kept
    | mark id status => exact ⟨held, fun _ => rfl⟩
    | pauseIfHeld id owner => exact ⟨held, fun _ => rfl⟩
    | touch id =>
        have here : id = slot := by
          revert target
          cases (pool.perform now (.touch id)).1 <;> simp [PoolOp.target?]
        exact ⟨held, fun untouched => absurd (by rw [here]) untouched⟩
    | _ => simp [PoolOp.target?] at target
  · refine ⟨row, ?_, held, fun _ => rfl⟩
    rw [perform_frame sound now op target]
    exact found

theorem run_keeps_holder (sound : pool.Sound) (history : List Use)
    (found : pool.slot? slot = some row) (held : row.holds projectId = true)
    (kept : ∀ use ∈ history, use.op ≠ .free projectId) :
    ∃ after, (pool.run history).slot? slot = some after ∧ after.holds projectId = true ∧
      ((∀ use ∈ history, use.op ≠ .touch slot) → after.lastActivity = row.lastActivity) := by
  induction history generalizing pool row with
  | nil => exact ⟨row, found, held, fun _ => rfl⟩
  | cons use later ih =>
      obtain ⟨next, foundNext, heldNext, same⟩ :=
        perform_keeps_holder sound use.now found held (kept use (by simp))
      obtain ⟨last, foundLast, heldLast, sameLast⟩ :=
        ih (sound.next use) foundNext heldNext fun other member => kept other (by simp [member])
      refine ⟨last, foundLast, heldLast, fun untouched => ?_⟩
      rw [sameLast fun other member => untouched other (by simp [member]),
        same (untouched use (by simp))]

end Pool

end WorkspacePool
