import WorkspacePool.Proofs.Pool.Soundness

/-!
What one use of a pool does. `Effect` lists every change that a use of a sound pool can make,
together with the reply that tells of it, and `perform_effect` says that there are no others. What a
pool keeps to follows from the list alone.
-/

namespace WorkspacePool

/-- A reply by which no slot changes hands and no request comes or goes. -/
def PoolOp.IsQuiet : (op : PoolOp) → op.Reply → Prop
  | .claim _ _ _, .ok _ => False
  | .free _, .ok _ => False
  | .enqueue _, .ok _ => False
  | .dequeue, some _ => False
  | .claimNext, some _ => False
  | .withdraw _, some _ => False
  | _, _ => True

namespace Pool

variable {pool after : Pool} {now : Millis} {slots : List Slot} {slot : Slot} {id : SlotId}
  {projectId sessionId : String} {request : Request}

/-- What one use of a pool replies and leaves behind. -/
inductive Effect (pool : Pool) (now : Millis) : (op : PoolOp) → op.Reply → Pool → Prop where
  | unchanged (op : PoolOp) (reply : op.Reply) (quiet : op.IsQuiet reply) :
      Effect pool now op reply pool
  | claimed (slot : Slot) (projectId sessionId : String) (slots : List Slot)
      (free : slot.isBusy = false) (named : projectId ≠ "")
      (unheld : pool.holder? projectId = none)
      (replaced : Replaced slot (slot.occupy projectId sessionId now) pool.slots slots) :
      Effect pool now (.claim slot.id projectId sessionId) (.ok ()) { pool with slots }
  | freed (slot : Slot) (projectId : String) (slots : List Slot)
      (held : slot.holds projectId = true)
      (replaced : Replaced slot (slot.clear now) pool.slots slots) :
      Effect pool now (.free projectId) (.ok slot.id) { pool with slots }
  /-- A request that waits already is told its place. -/
  | kept (request : Request) (place : Nat)
      (found : pool.position? request.projectId = some place) :
      Effect pool now (.enqueue request) (.ok place) pool
  | entered (request : Request) (named : request.projectId ≠ "")
      (absent : ∀ other ∈ pool.waiting, other.projectId ≠ request.projectId)
      (room : pool.waiting.length < pool.capacity) :
      Effect pool now (.enqueue request) (.ok (pool.waiting.length + 1))
        { pool with waiting := pool.waiting ++ [request] }
  | dequeued (request : Request) (rest : List Request) (queue : pool.waiting = request :: rest) :
      Effect pool now .dequeue (some request) { pool with waiting := rest }
  /-- Everyone in the queue holds a slot already. -/
  | emptied (held : ∀ request ∈ pool.waiting, (pool.holder? request.projectId).isSome = true) :
      Effect pool now .claimNext none { pool with waiting := [] }
  | served (discarded : List Request) (request : Request) (rest : List Request) (slot : Slot)
      (slots : List Slot) (queue : pool.waiting = discarded ++ request :: rest)
      (held : ∀ other ∈ discarded, (pool.holder? other.projectId).isSome = true)
      (unheld : pool.holder? request.projectId = none)
      (first : pool.firstFree? = some slot.id) (free : slot.isBusy = false)
      (replaced : Replaced slot (slot.occupy request.projectId request.sessionId now)
        pool.slots slots) :
      Effect pool now .claimNext (some (slot.id, request)) { pool with slots, waiting := rest }
  | withdrawn (projectId : String) (front : List Request) (request : Request)
      (rest : List Request) (queue : pool.waiting = front ++ request :: rest)
      (ahead : ∀ other ∈ front, other.projectId ≠ projectId)
      (own : request.projectId = projectId) :
      Effect pool now (.withdraw projectId) (some request) { pool with waiting := front ++ rest }
  /-- The status or the time of the last activity of a slot is set. -/
  | adjusted (op : PoolOp) (reply : op.Reply) (quiet : op.IsQuiet reply) (slot : Slot)
      (status : SlotStatus) (lastActivity : Millis) (slots : List Slot)
      (allowed : slot.isBusy = true ↔ status ≠ .empty)
      (replaced : Replaced slot { slot with status, lastActivity } pool.slots slots) :
      Effect pool now op reply { pool with slots }

/-! ### Every use has one of these effects -/

theorem updateSlot_replaced (change : Slot → Slot) (found : pool.slot? id = some slot) :
    slot.id = id ∧ ∃ slots, Replaced slot (change slot) pool.slots slots ∧
      pool.updateSlot id change = { pool with slots } :=
  ⟨by simpa using List.find?_some found, _, updateFirst_replaced change found, rfl⟩

theorem claim_effect (sound : pool.Sound) :
    Effect pool now (.claim id projectId sessionId) (pool.claim id projectId sessionId now).1
      (pool.claim id projectId sessionId now).2 := by
  unfold claim
  split
  · exact .unchanged _ _ trivial
  · next named =>
    split
    · exact .unchanged _ _ trivial
    · next elsewhere =>
      split
      · exact .unchanged _ _ trivial
      · next slot found =>
        split
        · exact .unchanged _ _ trivial
        · next free =>
          obtain ⟨rfl, slots, replaced, same⟩ :=
            updateSlot_replaced (·.occupy projectId sessionId now) found
          have unheld : pool.holder? projectId = none := by
            cases holder : pool.holder? projectId with
            | none => rfl
            | some other =>
                -- A holder in no other slot is the claimed slot itself, which is free.
                have here : other.id = slot.id := by
                  simpa [holderElsewhere?, holder, Option.filter_eq_none_iff] using elsewhere
                obtain ⟨member, held⟩ := (holder?_eq_some_iff sound).mp holder
                have busy := (Slot.holds_iff.mp held).1
                rw [sound.same_row member (List.mem_of_find?_eq_some found) here] at busy
                exact absurd busy free
          rw [same]
          exact .claimed slot projectId sessionId slots (by simpa using free) (by simpa using named)
            unheld replaced

theorem claim_refused {reason : PoolError}
    (refused : (pool.claim id projectId sessionId now).1 = .error reason) :
    (pool.claim id projectId sessionId now).2 = pool := by
  revert refused
  unfold claim
  split
  · exact fun _ => rfl
  · split
    · exact fun _ => rfl
    · split
      · exact fun _ => rfl
      · split
        · exact fun _ => rfl
        · intro refused
          contradiction

theorem free_effect :
    Effect pool now (.free projectId) (pool.free projectId now).1 (pool.free projectId now).2 := by
  unfold free
  split
  · exact .unchanged _ _ trivial
  · next slot found =>
    have held := List.find?_some (p := fun row : Slot => row.holds projectId) found
    exact .freed slot projectId _ held (updateFirst_replaced _ found)

theorem position?_eq_none_iff :
    pool.position? projectId = none ↔ ∀ other ∈ pool.waiting, other.projectId ≠ projectId := by
  simp [position?, List.findIdx?_eq_none_iff]

theorem enqueue_effect :
    Effect pool now (.enqueue request) (pool.enqueue request).1 (pool.enqueue request).2 := by
  unfold enqueue
  split
  · exact .unchanged _ _ trivial
  · next named =>
    split
    · next place found => exact .kept request place found
    · next missing =>
      split
      · exact .unchanged _ _ trivial
      · next room =>
        exact .entered request (by simpa using named) (position?_eq_none_iff.mp missing)
          (by omega)

theorem dequeue_effect : Effect pool now .dequeue pool.dequeue.1 pool.dequeue.2 := by
  unfold dequeue
  split
  · exact .unchanged _ _ trivial
  · next request rest queue => exact .dequeued request rest queue

/-- The request of a waiting project, and what remains without it. -/
theorem withdraw_split
    (found : pool.waiting.find? (·.projectId == projectId) = some request) :
    ∃ front rest, pool.waiting = front ++ request :: rest ∧
      pool.waiting.eraseP (·.projectId == projectId) = front ++ rest ∧
      (∀ other ∈ front, other.projectId ≠ projectId) ∧ request.projectId = projectId := by
  obtain ⟨own, front, rest, queue, ahead⟩ := List.find?_eq_some_iff_append.mp found
  have apart : ∀ other ∈ front, ¬ (other.projectId == projectId) = true := by
    intro other member
    simpa using ahead other member
  refine ⟨front, rest, queue, ?_, by simpa using apart, by simpa using own⟩
  rw [queue, List.eraseP_append_right _ apart]
  simp [own]

theorem withdraw_effect :
    Effect pool now (.withdraw projectId) (pool.withdraw projectId).1
      (pool.withdraw projectId).2 := by
  unfold withdraw
  split
  · exact .unchanged _ _ trivial
  · next request found =>
    obtain ⟨front, rest, queue, remaining, ahead, own⟩ := withdraw_split found
    rw [remaining]
    exact .withdrawn projectId front request rest queue ahead own

/-- How far serving a queue gets: nowhere without a free slot, to the end when all who wait hold
slots, and else to the first who does not. -/
theorem claimFor_cases (sound : pool.Sound) (now : Millis) (waiting : List Request) :
    (pool.firstFree? = none ∧ pool.claimFor now waiting = (none, { pool with waiting })) ∨
    ((∀ request ∈ waiting, (pool.holder? request.projectId).isSome = true) ∧
      pool.claimFor now waiting = (none, { pool with waiting := [] })) ∨
    ∃ discarded request rest slot slots, waiting = discarded ++ request :: rest ∧
      (∀ other ∈ discarded, (pool.holder? other.projectId).isSome = true) ∧
      pool.holder? request.projectId = none ∧
      pool.firstFree? = some slot.id ∧ slot.isBusy = false ∧
      Replaced slot (slot.occupy request.projectId request.sessionId now) pool.slots slots ∧
      pool.claimFor now waiting =
        (some (slot.id, request), { pool with slots, waiting := rest }) := by
  induction waiting with
  | nil => exact .inr (.inl ⟨by simp, rfl⟩)
  | cons request rest ih =>
      cases first : pool.firstFree? with
      | none => exact .inl ⟨rfl, by simp [claimFor, first]⟩
      | some id =>
          cases holder : pool.holder? request.projectId with
          | some other =>
              have skipped : pool.claimFor now (request :: rest) = pool.claimFor now rest := by
                simp [claimFor, first, holder]
              rw [skipped]
              simp only [first, reduceCtorEq, false_and, false_or] at ih
              rcases ih with ⟨held, result⟩ | ⟨discarded, next, later, slot, slots, queue, held, ih⟩
              · exact .inr (.inl ⟨by simpa [holder] using held, result⟩)
              · exact .inr (.inr ⟨request :: discarded, next, later, slot, slots, by simp [queue],
                  by simpa [holder] using held, ih⟩)
          | none =>
              obtain ⟨slot, member, rfl, free⟩ := firstFree?_eq_some first
              have found := (slot?_eq_some_iff sound).mpr ⟨member, rfl⟩
              obtain ⟨-, slots, replaced, same⟩ := updateSlot_replaced
                (·.occupy request.projectId request.sessionId now) found
              refine .inr (.inr ⟨[], request, rest, slot, slots, rfl, by simp, holder, rfl, free,
                replaced, ?_⟩)
              simp [claimFor, first, holder, found, same]

theorem claimNext_effect (sound : pool.Sound) :
    Effect pool now .claimNext (pool.claimNext now).1 (pool.claimNext now).2 := by
  unfold claimNext
  rcases claimFor_cases sound now pool.waiting with ⟨-, result⟩ | ⟨held, result⟩ |
    ⟨discarded, request, rest, slot, slots, queue, held, unheld, first, free, replaced, result⟩
  · rw [result]
    exact .unchanged _ _ trivial
  · rw [result]
    exact .emptied held
  · rw [result]
    exact .served discarded request rest slot slots queue held unheld first free replaced

theorem allows_iff {status : SlotStatus} :
    allows slot status = true ↔ (slot.isBusy = true ↔ status ≠ .empty) := by
  cases status <;> simp [allows]

theorem mark_effect {status : SlotStatus} :
    Effect pool now (.mark id status) (pool.mark id status).1 (pool.mark id status).2 := by
  unfold mark
  split
  · exact .unchanged _ _ trivial
  · next slot found =>
    split
    · next allowed =>
      obtain ⟨-, slots, replaced, same⟩ := updateSlot_replaced ({ · with status }) found
      rw [same]
      exact .adjusted (.mark id status) (.ok ()) trivial slot status slot.lastActivity slots
        (allows_iff.mp allowed) replaced
    · exact .unchanged _ _ trivial

theorem pauseIfHeld_effect :
    Effect pool now (.pauseIfHeld id projectId) (pool.pauseIfHeld id projectId).1
      (pool.pauseIfHeld id projectId).2 := by
  unfold pauseIfHeld
  split
  · exact .unchanged _ _ trivial
  · next slot found =>
    split
    · exact .unchanged _ _ trivial
    · next held =>
      split
      · exact .unchanged _ _ trivial
      · obtain ⟨-, slots, replaced, same⟩ :=
          updateSlot_replaced ({ · with status := .paused }) found
        have busy : slot.isBusy = true := (Slot.holds_iff.mp (by simpa using held)).1
        rw [same]
        exact .adjusted (.pauseIfHeld id projectId) (.ok ()) trivial slot .paused slot.lastActivity
          slots (by simp [busy]) replaced

theorem touch_effect (sound : pool.Sound) :
    Effect pool now (.touch id) (pool.touch id now).1 (pool.touch id now).2 := by
  unfold touch
  split
  · exact .unchanged _ _ trivial
  · next slot found =>
    obtain ⟨-, slots, replaced, same⟩ := updateSlot_replaced ({ · with lastActivity := now }) found
    rw [same]
    exact .adjusted (.touch id) (.ok ()) trivial slot slot.status now slots
      (sound.consistent slot replaced.old_mem).busy_iff_status replaced

/-- A use of a sound pool has one of the listed effects. -/
theorem perform_effect (sound : pool.Sound) (now : Millis) (op : PoolOp) :
    Effect pool now op (pool.perform now op).1 (pool.perform now op).2 := by
  cases op with
  | claim id projectId sessionId => exact claim_effect sound
  | free projectId => exact free_effect
  | enqueue request => exact enqueue_effect
  | dequeue => exact dequeue_effect
  | claimNext => exact claimNext_effect sound
  | withdraw projectId => exact withdraw_effect
  | mark id status => exact mark_effect
  | pauseIfHeld id projectId => exact pauseIfHeld_effect
  | touch id => exact touch_effect sound
  | findFree => exact .unchanged _ _ trivial
  | position projectId => exact .unchanged _ _ trivial
  | holder projectId => exact .unchanged _ _ trivial
  | idleRunning limit => exact .unchanged _ _ trivial

end Pool

end WorkspacePool
