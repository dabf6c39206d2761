import WorkspacePool.Proofs.Pool.Frame

/-!
Tokens do not steer a pool. Two pools that differ in the tokens of the requests that wait, and are
used alike, reply alike and still differ in those tokens only. What a pool does with a queue is what
it does with the queue whose tokens are erased, erased in turn.
-/

namespace WorkspacePool

/-- A request but for its token. -/
def Request.tokenless (request : Request) : Request :=
  { request with githubToken := "" }

namespace Request

variable {left right : Request}

@[simp] theorem tokenless_projectId (request : Request) :
    request.tokenless.projectId = request.projectId := rfl

theorem tokenless_eq_iff :
    left.tokenless = right.tokenless ↔ ∃ githubToken, right = { left with githubToken } := by
  constructor
  · intro same
    refine ⟨right.githubToken, ?_⟩
    obtain ⟨⟩ := left
    obtain ⟨⟩ := right
    simpa [tokenless, eq_comm] using same
  · rintro ⟨githubToken, rfl⟩
    rfl

end Request

namespace PoolOp

/-- Two operations that differ in tokens at most, and how their replies are to agree. -/
inductive Twins : (left right : PoolOp) → (left.Reply → right.Reply → Prop) → Prop where
  | onSlots {op : PoolOp} (onSlots : op.onSlots = true) : Twins op op (· = ·)
  | enqueue {left right : Request} (same : left.tokenless = right.tokenless) :
      Twins (.enqueue left) (.enqueue right) (· = ·)
  | position (projectId : String) : Twins (.position projectId) (.position projectId) (· = ·)
  | dequeue : Twins .dequeue .dequeue fun left right =>
      left.map Request.tokenless = right.map Request.tokenless
  | withdraw (projectId : String) :
      Twins (.withdraw projectId) (.withdraw projectId) fun left right =>
        left.map Request.tokenless = right.map Request.tokenless
  | claimNext : Twins .claimNext .claimNext fun left right =>
      left.map (Prod.map id Request.tokenless) = right.map (Prod.map id Request.tokenless)

end PoolOp

namespace Pool

/-- A pool but for the tokens of the requests that wait. -/
def tokenless (pool : Pool) : Pool :=
  { pool with waiting := pool.waiting.map Request.tokenless }

variable {pool left right : Pool} {projectId : String} {now : Millis}

@[simp] theorem tokenless_waiting :
    pool.tokenless.waiting = pool.waiting.map Request.tokenless := rfl

@[simp] theorem tokenless_capacity : pool.tokenless.capacity = pool.capacity := rfl

theorem perform_tokenless {op : PoolOp} (now : Millis) (onSlots : op.onSlots = true) :
    pool.tokenless.perform now op =
      ((pool.perform now op).1, (pool.perform now op).2.tokenless) := by
  rw [tokenless, perform_beside pool _ now onSlots, tokenless, perform_waiting pool op now onSlots]

theorem position?_tokenless : pool.tokenless.position? projectId = pool.position? projectId := by
  simp [position?, List.findIdx?_map, Function.comp_def]

theorem enqueue_tokenless (request : Request) :
    pool.tokenless.enqueue request.tokenless =
      ((pool.enqueue request).1, (pool.enqueue request).2.tokenless) := by
  unfold enqueue
  rw [Request.tokenless_projectId, position?_tokenless]
  split
  · rfl
  · split
    · rfl
    · by_cases full : pool.capacity ≤ pool.waiting.length
      · simp [full]
      · simp [full, tokenless]

theorem dequeue_tokenless :
    pool.tokenless.dequeue = (pool.dequeue.1.map Request.tokenless, pool.dequeue.2.tokenless) := by
  obtain ⟨slots, waiting, capacity⟩ := pool
  cases waiting <;> rfl

theorem withdraw_tokenless :
    pool.tokenless.withdraw projectId = ((pool.withdraw projectId).1.map Request.tokenless,
      (pool.withdraw projectId).2.tokenless) := by
  have found : (pool.waiting.map Request.tokenless).find? (·.projectId == projectId) =
      (pool.waiting.find? (·.projectId == projectId)).map Request.tokenless := List.find?_map
  have erased : (pool.waiting.map Request.tokenless).eraseP (·.projectId == projectId) =
      (pool.waiting.eraseP (·.projectId == projectId)).map Request.tokenless := List.eraseP_map
  simp only [withdraw, tokenless_waiting, found, erased]
  cases pool.waiting.find? (·.projectId == projectId) <;> rfl

theorem claimFor_tokenless (now : Millis) (waiting : List Request) :
    pool.tokenless.claimFor now (waiting.map Request.tokenless) =
      ((pool.claimFor now waiting).1.map (Prod.map id Request.tokenless),
        (pool.claimFor now waiting).2.tokenless) := by
  have free : pool.tokenless.firstFree? = pool.firstFree? := rfl
  induction waiting with
  | nil => rfl
  | cons request rest ih =>
      have held : pool.tokenless.holder? request.tokenless.projectId =
          pool.holder? request.projectId := rfl
      simp only [List.map_cons, claimFor, free, held]
      cases pool.firstFree? with
      | none => rfl
      | some id =>
          have row : pool.tokenless.slot? id = pool.slot? id := rfl
          cases pool.holder? request.projectId with
          | some holder => exact ih
          | none =>
              simp only [row]
              cases pool.slot? id <;> rfl

theorem claimNext_tokenless :
    pool.tokenless.claimNext now = ((pool.claimNext now).1.map (Prod.map id Request.tokenless),
      (pool.claimNext now).2.tokenless) :=
  claimFor_tokenless now pool.waiting

/-- Used alike, pools that differ in tokens only reply alike and go on to differ in tokens only. -/
theorem perform_twins {op other : PoolOp} {agree : op.Reply → other.Reply → Prop}
    (twins : PoolOp.Twins op other agree) (alike : left.tokenless = right.tokenless)
    (now : Millis) :
    agree (left.perform now op).1 (right.perform now other).1 ∧
      (left.perform now op).2.tokenless = (right.perform now other).2.tokenless := by
  cases twins with
  | onSlots onSlots =>
      have same := congrArg (perform · now op) alike
      simp only [perform_tokenless now onSlots] at same
      exact Prod.mk.inj same
  | @enqueue request other same =>
      have both := congrArg (enqueue · request.tokenless) alike
      rw [enqueue_tokenless, same, enqueue_tokenless] at both
      exact Prod.mk.inj both
  | position projectId =>
      have same := congrArg (position? · projectId) alike
      simp only [position?_tokenless] at same
      exact ⟨same, alike⟩
  | dequeue =>
      have same := congrArg dequeue alike
      rw [dequeue_tokenless, dequeue_tokenless] at same
      exact Prod.mk.inj same
  | withdraw projectId =>
      have same := congrArg (withdraw · projectId) alike
      simp only [withdraw_tokenless] at same
      exact Prod.mk.inj same
  | claimNext =>
      have same := congrArg (claimNext · now) alike
      simp only [claimNext_tokenless] at same
      exact Prod.mk.inj same

end Pool

end WorkspacePool
