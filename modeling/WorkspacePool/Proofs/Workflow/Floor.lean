import WorkspacePool.Proofs.Pool.Presence
import WorkspacePool.Proofs.Workflow.Company
import WorkspacePool.Proofs.Workflow.Phases

/-!
Several workers on one pool. Each performs one operation after the other, and between two steps of
one the others may take any number of theirs. A project may then hold a slot and wait at the same
time, and `floor_keeps_apart` tells when: while it is being placed, and after its request was let
wait although it held a slot, which another worker must have claimed for it meanwhile.
-/

namespace WorkspacePool.Workflow

/-- The project whose request the step let wait. -/
def Taken.accepted? : Taken → Option String
  | ⟨_, _, .usePool op, reply⟩ => op.accepted? reply
  | _ => none

/-- A step of one of several workers. -/
structure Entry extends Taken where
  worker : Nat

structure Floor where
  pool : Pool
  /-- What every worker still has to do. -/
  workers : Nat → Steps Unit
  log : List Entry

inductive Turn where
  | start (worker : Nat) (operation : Operation)
  | step (worker : Nat) (now : Millis) (answer : (call : Call) → call.Answer)

namespace Floor

def fresh (slotCount : UInt32) (capacity : Nat) (now : Millis) : Floor :=
  { pool := Pool.create slotCount capacity now, workers := fun _ => .done (), log := [] }

/-- A worker takes a step and has the rest to do. -/
def advance (floor : Floor) (worker : Nat) (now : Millis) (step : Step) (answer : step.Answer)
    (rest : Steps Unit) : Floor :=
  { pool := step.leave floor.pool now
    workers := Function.update floor.workers worker rest
    log := floor.log ++ [{ pool := floor.pool, now, step, answer, worker }] }

/-- Take a turn. A busy worker starts nothing, and an idle one takes no step. -/
def take (brokerUrl : String) (floor : Floor) : Turn → Floor
  | .start worker operation =>
      match floor.workers worker with
      | .done () =>
          { floor with
            workers := Function.update floor.workers worker (operation.steps brokerUrl) }
      | .ask _ _ => floor
  | .step worker now answer =>
      match floor.workers worker with
      | .done () => floor
      | .ask step next =>
          let reply := step.respond floor.pool now answer
          floor.advance worker now step reply (next reply)

def run (brokerUrl : String) (floor : Floor) : List Turn → Floor
  | [] => floor
  | turn :: later => (floor.take brokerUrl turn).run brokerUrl later

/-- The last step of a worker. -/
def lastOf? (floor : Floor) (worker : Nat) : Option Entry :=
  last? (·.worker == worker) floor.log

/-- A worker has just claimed a slot for the project, and withdraws its request next. -/
def Placing (floor : Floor) (projectId : String) : Prop :=
  ∃ worker entry slot next, floor.lastOf? worker = some entry ∧
    entry.booking? = some (.claim slot projectId) ∧
    floor.workers worker = .ask (.usePool (.withdraw projectId)) next

/-- The project's request was let wait while it held a slot, and has waited since. -/
def Stale (floor : Floor) (projectId : String) : Prop :=
  ∃ earlier entry later, floor.log = earlier ++ entry :: later ∧
    entry.accepted? = some projectId ∧ entry.pool.Hosts projectId ∧
    ∀ next ∈ later, next.pool.Waits projectId

end Floor

/-- The step found that the project holds no slot. -/
def Taken.Misses (taken : Taken) (projectId : String) : Prop :=
  ∃ pool now, taken = ⟨pool, now, .usePool (.holder projectId), none⟩

/-- When the worker last looked for a holder, the project held no slot. If it holds one in the pool
now, another worker has claimed it since. -/
def LookedUp (log : List Entry) (worker : Nat) (pool : Pool) (projectId : String) : Prop :=
  ∃ earlier lookup since, log = earlier ++ lookup :: since ∧
    lookup.worker = worker ∧ lookup.Misses projectId ∧
    (∀ own ∈ since, own.worker = worker → ∀ other, own.step ≠ .usePool (.holder other)) ∧
    (pool.Hosts projectId → ∃ other ∈ since, other.worker ≠ worker ∧
      ∃ slot, other.booking? = some (.claim slot projectId))

/-! ### What a step changes -/

section Steps

variable {pool : Pool} {now : Millis} {answers : (call : Call) → call.Answer} {step : Step}
  {answer : step.Answer} {projectId : String}

/-- Whoever holds a slot after a step held it before or had it claimed by the step. -/
theorem hosts_of_leave (sound : pool.Sound) (told : step.respond pool now answers = answer)
    (hosts : (step.leave pool now).Hosts projectId) :
    pool.Hosts projectId ∨ ∃ slot, Taken.booking? ⟨pool, now, step, answer⟩ =
      some (.claim slot projectId) := by
  cases step with
  | readClock => exact .inl hosts
  | call call => exact .inl hosts
  | usePool op =>
      subst told
      have changed := ((Pool.perform_effect sound now op).hosts_iff sound projectId).mp hosts
      cases booking : op.booking? (pool.perform now op).1 with
      | none =>
          rw [booking] at changed
          exact .inl changed
      | some booked =>
          rw [booking] at changed
          cases booked with
          | claim slot claimant =>
              rcases changed with rfl | before
              · exact .inr ⟨slot, booking⟩
              · exact .inl before
          | free slot leaver => exact .inl changed.2

theorem waits_of_leave (sound : pool.Sound) (told : step.respond pool now answers = answer)
    (waits : (step.leave pool now).Waits projectId) :
    pool.Waits projectId ∨ Taken.accepted? ⟨pool, now, step, answer⟩ = some projectId := by
  cases step with
  | readClock => exact .inl waits
  | call call => exact .inl waits
  | usePool op =>
      subst told
      exact (Pool.perform_effect sound now op).waits_cases waits

/-- Who has a slot claimed and waits all the same had it claimed by name, not from the queue. -/
theorem claims_of_waits (sound : pool.Sound) (told : step.respond pool now answers = answer)
    {slot : SlotId}
    (claimed : Taken.booking? ⟨pool, now, step, answer⟩ = some (.claim slot projectId))
    (waits : (step.leave pool now).Waits projectId) :
    ∃ sessionId, step = .usePool (.claim slot projectId sessionId) := by
  cases step with
  | readClock => contradiction
  | call call => contradiction
  | usePool op =>
      subst told
      obtain ⟨sessionId, rfl⟩ :=
        (Pool.perform_effect sound now op).claim_of_waits sound claimed waits
      exact ⟨sessionId, rfl⟩

theorem unbooked_of_accepted
    (accepted : Taken.accepted? ⟨pool, now, step, answer⟩ = some projectId) :
    Taken.booking? ⟨pool, now, step, answer⟩ = none ∧
      ∃ request, step = .usePool (.enqueue request) ∧ request.projectId = projectId := by
  cases step with
  | readClock => contradiction
  | call call => contradiction
  | usePool op =>
      change op.accepted? answer = _ at accepted
      cases op with
      | enqueue request =>
          cases answer with
          | ok position =>
              exact ⟨rfl, request, rfl, by simpa [PoolOp.accepted?] using accepted⟩
          | error reason => contradiction
      | _ => contradiction

end Steps

/-! ### What holds on the floor at any time -/

/-- What the log tells of a worker's phase. -/
def Floor.Backs (floor : Floor) (worker : Nat) : Phase → Prop
  | .free => True
  | .seeking projectId => LookedUp floor.log worker floor.pool projectId
  | .placed projectId => ∃ entry slot, floor.lastOf? worker = some entry ∧
      entry.booking? = some (.claim slot projectId)

structure Floor.Orderly (floor : Floor) : Prop where
  sound : floor.pool.Sound
  phases : ∀ worker, ∃ phase,
    Keeps (fun _ after => after.isPlaced = false) (floor.workers worker) phase ∧
      floor.Backs worker phase
  apart : ∀ projectId, floor.pool.Hosts projectId → floor.pool.Waits projectId →
    floor.Placing projectId ∨ floor.Stale projectId
  queued : ∀ earlier entry later projectId, floor.log = earlier ++ entry :: later →
    entry.accepted? = some projectId → LookedUp earlier entry.worker entry.pool projectId

section Advance

variable {floor : Floor} {worker other : Nat} {now : Millis} {step : Step} {answer : step.Answer}
  {answers : (call : Call) → call.Answer} {rest : Steps Unit} {projectId : String}

theorem workers_advance :
    (floor.advance worker now step answer rest).workers worker = rest :=
  Function.update_self _ _ _

theorem workers_advance_of_ne (different : worker ≠ other) :
    (floor.advance worker now step answer rest).workers other = floor.workers other :=
  Function.update_of_ne (Ne.symm different) _ _

theorem lastOf?_advance : (floor.advance worker now step answer rest).lastOf? worker =
    some { pool := floor.pool, now, step, answer, worker } := by
  simp [Floor.lastOf?, Floor.advance, last?]

theorem lastOf?_advance_of_ne (different : worker ≠ other) :
    (floor.advance worker now step answer rest).lastOf? other = floor.lastOf? other := by
  simp [Floor.lastOf?, Floor.advance, last?, different]

/-- What was looked up stays so while others take steps, and while the worker itself neither looks
again nor gets a slot. -/
theorem LookedUp.advance (looked : LookedUp floor.log other floor.pool projectId)
    (sound : floor.pool.Sound) (told : step.respond floor.pool now answers = answer)
    (own : worker = other → Taken.booking? ⟨floor.pool, now, step, answer⟩ = none ∧
      ∀ other, step ≠ .usePool (.holder other)) :
    LookedUp (floor.advance worker now step answer rest).log other
      (floor.advance worker now step answer rest).pool projectId := by
  obtain ⟨earlier, lookup, since, split, byWorker, misses, last, claimed⟩ := looked
  refine ⟨earlier, lookup, since ++ [{ pool := floor.pool, now, step, answer, worker }], ?_,
    byWorker, misses, ?_, ?_⟩
  · simp [Floor.advance, split]
  · intro entry member same
    rcases List.mem_append.mp member with before | new
    · exact last entry before same
    · rw [List.mem_singleton.mp new] at same ⊢
      exact (own same).2
  · intro hosts
    rcases hosts_of_leave sound told hosts with before | ⟨slot, booked⟩
    · obtain ⟨entry, member, different, claims⟩ := claimed before
      exact ⟨entry, List.mem_append_left _ member, different, claims⟩
    · refine ⟨_, List.mem_append_right _ (List.mem_singleton.mpr rfl), ?_, slot, booked⟩
      intro same
      rw [(own same).1] at booked
      contradiction

/-- A lookup that finds nobody. -/
theorem lookedUp_of_missed (sound : floor.pool.Sound)
    (told : (Step.usePool (.holder projectId)).respond floor.pool now answers = none) :
    LookedUp (floor.advance worker now (.usePool (.holder projectId)) none rest).log worker
      (floor.advance worker now (.usePool (.holder projectId)) none rest).pool projectId := by
  have unheld : ¬ floor.pool.Hosts projectId := sound.not_hosts told
  exact ⟨floor.log, _, [], rfl, rfl, ⟨floor.pool, now, rfl⟩, by simp,
    fun hosts => absurd hosts unheld⟩

theorem unbooked_of_look (look : step.isLook = true) :
    Taken.booking? ⟨floor.pool, now, step, answer⟩ = none ∧
      ∀ other, step ≠ .usePool (.holder other) := by
  cases step with
  | readClock => exact ⟨rfl, by simp⟩
  | call call => exact ⟨rfl, by simp⟩
  | usePool op =>
      cases op with
      | findFree => exact ⟨rfl, by simp⟩
      | _ => contradiction

/-- The worker's own step leads to a phase that the log backs. -/
theorem Floor.Backs.own {phase after : Phase} (backs : floor.Backs worker phase)
    (sound : floor.pool.Sound) (told : step.respond floor.pool now answers = answer)
    (allowed : phase.Allows step answer after) :
    (floor.advance worker now step answer rest).Backs worker after := by
  cases allowed with
  | modest => trivial
  | missed => exact lookedUp_of_missed sound told
  | looked _ _ _ look => exact LookedUp.advance backs sound told fun _ => unbooked_of_look look
  | refused => exact LookedUp.advance backs sound told fun _ => ⟨rfl, by simp⟩
  | claimed slot => exact ⟨_, slot, lastOf?_advance, rfl⟩
  | enqueued => trivial
  | withdrawn => trivial

theorem Floor.Backs.others {phase : Phase} (backs : floor.Backs other phase)
    (different : worker ≠ other) (sound : floor.pool.Sound)
    (told : step.respond floor.pool now answers = answer) :
    (floor.advance worker now step answer rest).Backs other phase := by
  cases phase with
  | free => trivial
  | seeking projectId => exact LookedUp.advance backs sound told fun same => absurd same different
  | placed projectId =>
      obtain ⟨entry, slot, last, booked⟩ := backs
      exact ⟨entry, slot, (lastOf?_advance_of_ne different).trans last, booked⟩

theorem Floor.Orderly.phases_advance (orderly : floor.Orderly) {next : step.Answer → Steps Unit}
    (busy : floor.workers worker = .ask step next)
    (told : step.respond floor.pool now answers = answer) (other : Nat) :
    ∃ phase, Keeps (fun _ after => after.isPlaced = false)
        ((floor.advance worker now step answer (next answer)).workers other) phase ∧
      (floor.advance worker now step answer (next answer)).Backs other phase := by
  obtain ⟨phase, keeps, backs⟩ := orderly.phases other
  by_cases same : worker = other
  · subst same
    rw [busy] at keeps
    obtain ⟨after, allowed, later⟩ := keeps answer
    refine ⟨after, ?_, backs.own orderly.sound told allowed⟩
    rwa [workers_advance]
  · refine ⟨phase, ?_, backs.others same orderly.sound told⟩
    rwa [workers_advance_of_ne same]

/-- A project that is being placed waits no longer after the worker's next step, and goes on being
placed while others take theirs. -/
theorem Floor.Placing.advance (placing : floor.Placing projectId) (sound : floor.pool.Sound)
    {next : step.Answer → Steps Unit} (busy : floor.workers worker = .ask step next)
    (waits : (step.leave floor.pool now).Waits projectId) :
    (floor.advance worker now step answer rest).Placing projectId := by
  obtain ⟨placer, entry, slot, later, last, booked, withdraws⟩ := placing
  by_cases same : worker = placer
  · subst same
    rw [busy] at withdraws
    obtain ⟨rfl, -⟩ := Dialogue.ask.inj withdraws
    exact absurd rfl ((Pool.withdraw_waits sound).mp waits).2
  · exact ⟨placer, entry, slot, later, (lastOf?_advance_of_ne same).trans last, booked,
      (workers_advance_of_ne same).trans withdraws⟩

theorem Floor.Stale.advance (stale : floor.Stale projectId) (waits : floor.pool.Waits projectId) :
    (floor.advance worker now step answer rest).Stale projectId := by
  obtain ⟨earlier, entry, later, split, accepted, hosted, since⟩ := stale
  refine ⟨earlier, entry, later ++ [{ pool := floor.pool, now, step, answer, worker }], ?_,
    accepted, hosted, ?_⟩
  · simp [Floor.advance, split]
  · intro next member
    rcases List.mem_append.mp member with before | new
    · exact since next before
    · rw [List.mem_singleton.mp new]
      exact waits

theorem Floor.Orderly.apart_advance (orderly : floor.Orderly) {next : step.Answer → Steps Unit}
    (busy : floor.workers worker = .ask step next)
    (told : step.respond floor.pool now answers = answer)
    (hosts : (step.leave floor.pool now).Hosts projectId)
    (waits : (step.leave floor.pool now).Waits projectId) :
    (floor.advance worker now step answer (next answer)).Placing projectId ∨
      (floor.advance worker now step answer (next answer)).Stale projectId := by
  have sound := orderly.sound
  rcases hosts_of_leave sound told hosts with hosted | ⟨slot, claimed⟩
  · rcases waits_of_leave sound told waits with waited | accepted
    · rcases orderly.apart projectId hosted waited with placing | stale
      · exact .inl (placing.advance sound busy waits)
      · exact .inr (stale.advance waited)
    · exact .inr ⟨floor.log, _, [], rfl, accepted, hosted, by simp⟩
  · -- The slot was claimed by name, so the worker is about to withdraw the request.
    obtain ⟨sessionId, rfl⟩ := claims_of_waits sound told claimed waits
    obtain ⟨phase, keeps, -⟩ := orderly.phases worker
    rw [busy] at keeps
    obtain ⟨after, allowed, later⟩ := keeps answer
    cases allowed with
    | modest _ _ _ _ modest => contradiction
    | looked _ _ _ look => contradiction
    | refused => contradiction
    | claimed =>
        obtain ⟨rest, withdraws⟩ := later.withdraws
        exact .inl ⟨worker, _, slot, rest, lastOf?_advance, claimed,
          workers_advance.trans withdraws⟩

theorem Floor.Orderly.queued_advance (orderly : floor.Orderly) {next : step.Answer → Steps Unit}
    (busy : floor.workers worker = .ask step next)
    (accepted : Taken.accepted? ⟨floor.pool, now, step, answer⟩ = some projectId) :
    LookedUp floor.log worker floor.pool projectId := by
  obtain ⟨-, request, rfl, rfl⟩ := unbooked_of_accepted accepted
  obtain ⟨phase, keeps, backs⟩ := orderly.phases worker
  rw [busy] at keeps
  obtain ⟨after, allowed, -⟩ := keeps answer
  cases allowed with
  | modest _ _ _ _ modest => contradiction
  | looked _ _ _ look => contradiction
  | enqueued => exact backs

theorem Floor.Orderly.advance (orderly : floor.Orderly) {next : step.Answer → Steps Unit}
    (busy : floor.workers worker = .ask step next)
    (told : step.respond floor.pool now answers = answer) :
    (floor.advance worker now step answer (next answer)).Orderly := by
  refine ⟨sound_leave orderly.sound now step, orderly.phases_advance busy told, ?_, ?_⟩
  · exact fun projectId => orderly.apart_advance busy told
  · intro earlier entry later projectId split accepted
    rcases split_of_append split with ⟨rfl, rfl⟩ | ⟨between, before⟩
    · exact orderly.queued_advance busy accepted
    · exact orderly.queued earlier entry between projectId before accepted

end Advance

/-! ### Turns -/

section Turns

variable {floor : Floor} {worker : Nat} {brokerUrl : String}

/-- An idle worker starts an operation, which changes nothing yet. -/
theorem Floor.Orderly.start (orderly : floor.Orderly) (idle : floor.workers worker = .done ())
    (operation : Operation) :
    Floor.Orderly { floor with
      workers := Function.update floor.workers worker (operation.steps brokerUrl) } := by
  refine ⟨orderly.sound, ?_, ?_, orderly.queued⟩
  · intro other
    by_cases same : other = worker
    · subst same
      refine ⟨.free, ?_, trivial⟩
      simp only [Function.update_self]
      exact operation_keeps brokerUrl operation
    · obtain ⟨phase, keeps, backs⟩ := orderly.phases other
      refine ⟨phase, ?_, ?_⟩
      · simpa only [Function.update_of_ne same] using keeps
      · cases phase with
        | free => trivial
        | seeking projectId => exact backs
        | placed projectId => exact backs
  · intro projectId hosts waits
    rcases orderly.apart projectId hosts waits with placing | stale
    · obtain ⟨placer, entry, slot, next, last, booked, withdraws⟩ := placing
      have busy : placer ≠ worker := by
        rintro rfl
        rw [idle] at withdraws
        contradiction
      refine .inl ⟨placer, entry, slot, next, last, booked, ?_⟩
      simpa only [Function.update_of_ne busy] using withdraws
    · exact .inr stale

/-- What holds of a floor when a worker starts one of some operations, and when one takes a step,
holds after any turns by which no other operations are started. -/
theorem Floor.run_keeps_among (kept : Floor → Prop) (among : Operation → Prop)
    (starts : ∀ (floor : Floor) (worker : Nat) (operation : Operation), among operation →
      kept floor → floor.workers worker = .done () → kept { floor with
        workers := Function.update floor.workers worker (operation.steps brokerUrl) })
    (advances : ∀ (floor : Floor) (worker : Nat) (now : Millis)
      (answers : (call : Call) → call.Answer) (step : Step) (next : step.Answer → Steps Unit),
      kept floor → floor.workers worker = .ask step next →
      kept (floor.advance worker now step (step.respond floor.pool now answers)
        (next (step.respond floor.pool now answers))))
    (turns : List Turn) (started : ∀ worker operation, .start worker operation ∈ turns →
      among operation) (start : kept floor) : kept (floor.run brokerUrl turns) := by
  induction turns generalizing floor with
  | nil => exact start
  | cons turn later ih =>
      have startedLater : ∀ worker operation, .start worker operation ∈ later → among operation :=
        fun worker operation member => started worker operation (List.mem_cons_of_mem _ member)
      apply ih startedLater
      cases turn with
      | start worker operation =>
          cases doing : floor.workers worker with
          | done result =>
              have allowed := started worker operation List.mem_cons_self
              simp only [Floor.take, doing]
              exact starts floor worker operation allowed start doing
          | ask step next =>
              simp only [Floor.take, doing]
              exact start
      | step worker now answers =>
          cases doing : floor.workers worker with
          | done result =>
              simp only [Floor.take, doing]
              exact start
          | ask step next =>
              simp only [Floor.take, doing]
              exact advances floor worker now answers step next start doing

/-- What holds of a floor when a worker starts any operation, and when one takes a step, holds after
any turns. -/
theorem Floor.run_keeps (kept : Floor → Prop)
    (starts : ∀ (floor : Floor) (worker : Nat) (operation : Operation), kept floor →
      floor.workers worker = .done () → kept { floor with
        workers := Function.update floor.workers worker (operation.steps brokerUrl) })
    (advances : ∀ (floor : Floor) (worker : Nat) (now : Millis)
      (answers : (call : Call) → call.Answer) (step : Step) (next : step.Answer → Steps Unit),
      kept floor → floor.workers worker = .ask step next →
      kept (floor.advance worker now step (step.respond floor.pool now answers)
        (next (step.respond floor.pool now answers))))
    (turns : List Turn) (start : kept floor) : kept (floor.run brokerUrl turns) := by
  apply Floor.run_keeps_among kept (fun _ => True) _ advances turns _ start
  · exact fun floor worker operation _ => starts floor worker operation
  · exact fun _ _ _ => trivial

theorem Floor.Orderly.run (orderly : floor.Orderly) (turns : List Turn) :
    (floor.run brokerUrl turns).Orderly := by
  apply Floor.run_keeps Floor.Orderly _ _ turns orderly
  · exact fun floor worker operation orderly idle => orderly.start idle operation
  · exact fun floor worker now answers step next orderly busy => orderly.advance busy rfl

theorem fresh_orderly (slotCount : UInt32) (capacity : Nat) (start : Millis) :
    (Floor.fresh slotCount capacity start).Orderly := by
  refine ⟨Pool.create_sound slotCount capacity start, fun worker => ⟨.free, rfl, trivial⟩, ?_, ?_⟩
  · rintro projectId ⟨slot, session, served⟩
    have nobody : (Pool.create slotCount capacity start).tenant? slot = none :=
      Pool.create_tenant? slotCount capacity start slot
    rw [Floor.fresh, nobody] at served
    contradiction
  · intro earlier entry later projectId split
    simp [Floor.fresh] at split

end Turns

/-- However the steps of several workers' operations fall between each other, a project holds a slot
and waits at the same time only while it is being placed, or after its request was let wait
although it held a slot. A request is let wait only after the worker found that its project held no
slot; if the project holds one by then, another worker has claimed it in between. -/
theorem floor_keeps_apart (slotCount : UInt32) (capacity : Nat) (start : Millis)
    (brokerUrl : String) (turns : List Turn) :
    let floor := (Floor.fresh slotCount capacity start).run brokerUrl turns
    (∀ projectId, floor.pool.Hosts projectId → floor.pool.Waits projectId →
      floor.Placing projectId ∨ floor.Stale projectId) ∧
    ∀ earlier entry later projectId, floor.log = earlier ++ entry :: later →
      entry.accepted? = some projectId →
      LookedUp earlier entry.worker entry.pool projectId := by
  intro floor
  have orderly : floor.Orderly := (fresh_orderly slotCount capacity start).run turns
  exact ⟨orderly.apart, orderly.queued⟩

/-! ### Holding a slot and waiting at the same time -/

/-- A worker starts an operation. -/
def Turn.creates (worker : Nat) (projectId userId : String) : Turn :=
  .start worker (.handle {
    kind := .createRequested
    timestamp := default
    payload := { Payload.blank with projectId, userId } })

/-- A worker takes some steps, and every collaborator does as it is asked. -/
def Turn.steps (worker count : Nat) (now : Millis) : List Turn :=
  List.replicate count <| .step worker now fun
    | .publish _ | .assign _ _ | .release _ _ => .ok ()
    | .lookUpToken _ => .ok "token"

/-- A project runs in the only slot, and another one waits. -/
def Turn.crowded : List Turn :=
  [.creates 0 "first" ""] ++ Turn.steps 0 8 0 ++ [.creates 0 "second" ""] ++ Turn.steps 0 5 0

/-- The workspace of the first project has idled too long and is paused. -/
def Turn.reclaims : List Turn :=
  [.start 1 (.pauseIdle (Span.ofMinutes 30))] ++ Turn.steps 1 7 1800001

/-- A project that waits holds a slot as well while a create that was delivered again is placing it.
And when the queue is served while such a create looks up a token, the create lets the project wait
although it holds a slot, and leaves it so. -/
theorem project_can_hold_and_wait :
    let placing := (Floor.fresh 1 2 0).run "" (Turn.crowded ++ Turn.reclaims ++
      [.creates 0 "second" ""] ++ Turn.steps 0 4 1800001)
    let served := (Floor.fresh 1 2 0).run "" (Turn.crowded ++ [.creates 0 "second" "user"] ++
      Turn.steps 0 2 1800001 ++ Turn.reclaims ++ [.start 2 .serve] ++ Turn.steps 2 4 1800001 ++
      Turn.steps 0 4 1800001)
    ((∃ slot ∈ placing.pool.slots, slot.holds "second" = true) ∧
      ∃ request ∈ placing.pool.waiting, request.projectId = "second") ∧
    ((∃ slot ∈ served.pool.slots, slot.holds "second" = true) ∧
      ∃ request ∈ served.pool.waiting, request.projectId = "second") ∧
    ∃ entry ∈ served.log, entry.accepted? = some "second" ∧
      ∃ slot ∈ entry.pool.slots, slot.holds "second" = true := by
  decide +kernel

end WorkspacePool.Workflow
