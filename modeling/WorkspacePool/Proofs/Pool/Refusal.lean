import WorkspacePool.Proofs.Pool.History

/-!
Uses of a pool that are refused. A refusal leaves the pool exactly as it was. A use that goes
through changes one row at most, and only claiming, serving and freeing change who holds a slot.
When a claim is refused, the reason names the first condition that is not met.
-/

namespace WorkspacePool

namespace PoolOp

/-- The reason that a reply gives for a refusal. -/
def refusal? : (op : PoolOp) → op.Reply → Option PoolError
  | .findFree, .error reason
  | .claim _ _ _, .error reason
  | .free _, .error reason
  | .enqueue _, .error reason
  | .mark _ _, .error reason
  | .pauseIfHeld _ _, .error reason
  | .touch _, .error reason => some reason
  | _, _ => none

/-- An operation that may give a slot to a project or take it back. -/
def movesProjects : PoolOp → Bool
  | .claim _ _ _ | .free _ | .claimNext => true
  | _ => false

end PoolOp

namespace Pool

variable {pool after : Pool} {now : Millis} {op : PoolOp} {reply : op.Reply} {slot : Slot}
  {id : SlotId} {projectId sessionId : String} {reason : PoolError}

/-! ### Refusals -/

theorem free_refused (refused : (pool.free projectId now).1 = .error reason) :
    (pool.free projectId now).2 = pool := by
  cases holder : pool.holder? projectId with
  | none => simp [free, holder]
  | some row => simp [free, holder] at refused

theorem enqueue_refused {request : Request} (refused : (pool.enqueue request).1 = .error reason) :
    (pool.enqueue request).2 = pool := by
  by_cases unnamed : request.projectId = ""
  · simp [enqueue, unnamed]
  · cases place : pool.position? request.projectId with
    | some position => simp [enqueue, unnamed, place]
    | none =>
        by_cases full : pool.capacity ≤ pool.waiting.length
        · simp [enqueue, unnamed, place, full]
        · simp [enqueue, unnamed, place, full] at refused

theorem mark_refused {status : SlotStatus} (refused : (pool.mark id status).1 = .error reason) :
    (pool.mark id status).2 = pool := by
  cases found : pool.slot? id with
  | none => simp [mark, found]
  | some row =>
      by_cases allowed : allows row status = true
      · simp [mark, found, allowed] at refused
      · simp [mark, found, allowed]

theorem pauseIfHeld_refused (refused : (pool.pauseIfHeld id projectId).1 = .error reason) :
    (pool.pauseIfHeld id projectId).2 = pool := by
  cases found : pool.slot? id with
  | none => simp [pauseIfHeld, found]
  | some row =>
      by_cases held : row.holds projectId = true
      · by_cases running : row.status = .running
        · simp [pauseIfHeld, found, held, running] at refused
        · simp [pauseIfHeld, found, held, running]
      · simp [pauseIfHeld, found, held]

theorem touch_refused (refused : (pool.touch id now).1 = .error reason) :
    (pool.touch id now).2 = pool := by
  cases found : pool.slot? id with
  | none => simp [touch, found]
  | some row => simp [touch, found] at refused

theorem perform_refused (refused : op.refusal? (pool.perform now op).1 = some reason) :
    (pool.perform now op).2 = pool := by
  cases op with
  | findFree => rfl
  | claim id projectId sessionId =>
      cases result : (pool.claim id projectId sessionId now).1 with
      | error told => exact claim_refused result
      | ok done => simp [perform, result, PoolOp.refusal?] at refused
  | free projectId =>
      cases result : (pool.free projectId now).1 with
      | error told => exact free_refused result
      | ok freed => simp [perform, result, PoolOp.refusal?] at refused
  | enqueue request =>
      cases result : (pool.enqueue request).1 with
      | error told => exact enqueue_refused result
      | ok place => simp [perform, result, PoolOp.refusal?] at refused
  | mark id status =>
      cases result : (pool.mark id status).1 with
      | error told => exact mark_refused result
      | ok done => simp [perform, result, PoolOp.refusal?] at refused
  | pauseIfHeld id projectId =>
      cases result : (pool.pauseIfHeld id projectId).1 with
      | error told => exact pauseIfHeld_refused result
      | ok done => simp [perform, result, PoolOp.refusal?] at refused
  | touch id =>
      cases result : (pool.touch id now).1 with
      | error told => exact touch_refused result
      | ok done => simp [perform, result, PoolOp.refusal?] at refused
  | dequeue | claimNext | withdraw | position | holder | idleRunning =>
      simp [PoolOp.refusal?] at refused

/-! ### Uses that go through -/

/-- All rows are as they were, or all but one, which keeps its number. -/
def ChangesOneRow (pool after : Pool) : Prop :=
  after.slots = pool.slots ∨
    ∃ old new, Replaced old new pool.slots after.slots ∧ new.id = old.id

theorem Effect.changesOneRow (effect : Effect pool now op reply after) :
    pool.ChangesOneRow after := by
  cases effect with
  | claimed slot projectId sessionId slots free named unheld replaced =>
      exact .inr ⟨slot, _, replaced, rfl⟩
  | freed slot projectId slots held replaced => exact .inr ⟨slot, _, replaced, rfl⟩
  | served discarded request rest slot slots queue held unheld first free replaced =>
      exact .inr ⟨slot, _, replaced, rfl⟩
  | adjusted op reply quiet slot status lastActivity slots allowed replaced =>
      exact .inr ⟨slot, _, replaced, rfl⟩
  | unchanged | kept | entered | dequeued | emptied | withdrawn => exact .inl rfl

/-- What a row says of the project in its slot. -/
def occupancy (slot : Slot) : SlotId × Bool × String × String :=
  (slot.id, slot.isBusy, slot.projectId, slot.sessionId)

theorem Effect.occupancy_eq (effect : Effect pool now op reply after)
    (stays : op.movesProjects = false) :
    after.slots.map occupancy = pool.slots.map occupancy := by
  cases effect with
  | claimed | freed | served => contradiction
  | adjusted op reply quiet slot status lastActivity slots allowed replaced =>
      exact replaced.map_eq occupancy rfl
  | unchanged | kept | entered | dequeued | emptied | withdrawn => rfl

/-! ### Claims -/

/-- A claim goes through exactly if the project has a name, the slot is there and free, and no slot
holds the project. -/
theorem claim_eq_ok_iff (sound : pool.Sound) :
    (pool.claim id projectId sessionId now).1 = .ok () ↔
      projectId ≠ "" ∧ (∃ slot ∈ pool.slots, slot.id = id ∧ slot.isBusy = false) ∧
        ∀ slot ∈ pool.slots, slot.holds projectId = false := by
  constructor
  · intro granted
    have effect : Effect pool now (.claim id projectId sessionId) _ _ := claim_effect sound
    rw [granted] at effect
    generalize (pool.claim id projectId sessionId now).2 = after at effect
    cases effect with
    | unchanged _ _ quiet => exact quiet.elim
    | adjusted _ _ quiet => exact quiet.elim
    | claimed slot projectId sessionId slots free named unheld replaced =>
        exact ⟨named, ⟨slot, replaced.old_mem, rfl, free⟩, holder?_eq_none_iff.mp unheld⟩
  · intro met
    obtain ⟨named, ⟨slot, member, number, free⟩, unheld⟩ := met
    have nowhere : pool.holderElsewhere? projectId id = none := by
      simp [holderElsewhere?, holder?_eq_none_iff.mpr unheld]
    have found := (slot?_eq_some_iff sound).mpr ⟨member, number⟩
    simp [claim, named, nowhere, found, free]

theorem claim_held_elsewhere (sound : pool.Sound) (member : slot ∈ pool.slots)
    (held : slot.holds projectId = true) (elsewhere : slot.id ≠ id) :
    (pool.claim id projectId sessionId now).1 =
      .error (.alreadyAssigned projectId slot.id) := by
  have named := (Slot.holds_iff.mp held).2.1
  have found : pool.holderElsewhere? projectId id = some slot := by
    simp [holderElsewhere?, (holder?_eq_some_iff sound).mpr ⟨member, held⟩, elsewhere]
  simp [claim, named, found]

/-- A claim that no other slot of the project stands against fails because its slot is missing or
busy. -/
theorem claim_not_found (sound : pool.Sound) (named : projectId ≠ "")
    (here : ∀ slot ∈ pool.slots, slot.holds projectId = true → slot.id = id)
    (refused : (pool.claim id projectId sessionId now).1 ≠ .ok ()) :
    ((∀ slot ∈ pool.slots, slot.id ≠ id) ∧
      (pool.claim id projectId sessionId now).1 = .error (.notFound (.slot id))) ∨
    ((∃ slot ∈ pool.slots, slot.id = id ∧ slot.isBusy = true) ∧
      (pool.claim id projectId sessionId now).1 = .error (.notFound (.busy id))) := by
  have nowhere : pool.holderElsewhere? projectId id = none := by
    rw [holderElsewhere?, Option.filter_eq_none_iff]
    intro holder found
    obtain ⟨member, held⟩ := (holder?_eq_some_iff sound).mp found
    simpa using here holder member held
  cases found : pool.slot? id with
  | none =>
      refine .inl ⟨?_, by simp [claim, named, nowhere, found]⟩
      simpa [slot?] using found
  | some slot =>
      obtain ⟨member, number⟩ := (slot?_eq_some_iff sound).mp found
      cases busy : slot.isBusy with
      | true =>
          exact .inr ⟨⟨slot, member, number, busy⟩, by simp [claim, named, nowhere, found, busy]⟩
      | false => exact absurd (by simp [claim, named, nowhere, found, busy]) refused

/-- What holds of every pool that a history of uses has led to. A use that is refused leaves the
pool exactly as it was. Any other changes one row at most and keeps its number, and unless it
claims, serves or frees, every slot holds the project and the session that it held before. A claim
goes through exactly if the project has a name, the slot is there and free, and no slot holds the
project. Otherwise the project has no name; or else it holds another slot, which the refusal tells;
or else the slot is missing or busy. -/
theorem refusals_leave_no_trace (slotCount : UInt32) (capacity : Nat) (start : Millis)
    (history : List Use) :
    let pool := (create slotCount capacity start).run history
    (∀ now op reason, op.refusal? (pool.perform now op).1 = some reason →
      (pool.perform now op).2 = pool) ∧
    (∀ now op, pool.ChangesOneRow (pool.perform now op).2) ∧
    (∀ now op, op.movesProjects = false →
      (pool.perform now op).2.slots.map occupancy = pool.slots.map occupancy) ∧
    ∀ id projectId sessionId now,
      let answer := (pool.claim id projectId sessionId now).1
      (answer = .ok () ↔
        projectId ≠ "" ∧ (∃ slot ∈ pool.slots, slot.id = id ∧ slot.isBusy = false) ∧
          ∀ slot ∈ pool.slots, slot.holds projectId = false) ∧
      (projectId = "" → answer = .error .emptyProject) ∧
      (∀ slot ∈ pool.slots, slot.holds projectId = true → slot.id ≠ id →
        answer = .error (.alreadyAssigned projectId slot.id)) ∧
      (projectId ≠ "" → (∀ slot ∈ pool.slots, slot.holds projectId = true → slot.id = id) →
        answer ≠ .ok () →
          ((∀ slot ∈ pool.slots, slot.id ≠ id) ∧ answer = .error (.notFound (.slot id))) ∨
          ((∃ slot ∈ pool.slots, slot.id = id ∧ slot.isBusy = true) ∧
            answer = .error (.notFound (.busy id)))) := by
  intro pool
  have sound : pool.Sound := (create_sound slotCount capacity start).run history
  refine ⟨fun now op reason refused => perform_refused refused,
    fun now op => (perform_effect sound now op).changesOneRow,
    fun now op stays => (perform_effect sound now op).occupancy_eq stays, ?_⟩
  intro id projectId sessionId now answer
  refine ⟨claim_eq_ok_iff sound, ?_, ?_, claim_not_found sound⟩
  · intro unnamed
    simp [answer, claim, unnamed]
  · intro slot member held elsewhere
    exact claim_held_elsewhere sound member held elsewhere

end Pool

end WorkspacePool
