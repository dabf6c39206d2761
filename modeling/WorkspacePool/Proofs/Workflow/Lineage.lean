import WorkspacePool.Proofs.Pool.Moving
import WorkspacePool.Proofs.Workflow.Reclaiming

/-!
Where the pools on a trail come from. The pool that a step finds is what the uses before it made of
the first one, those of the others and the operation's own, so what is known of a project's slot
after one step holds at a later one unless the project was freed in between.
-/

namespace WorkspacePool

/-- The slot that a reply says a project to have been put into, or to have been found in. -/
def PoolOp.located? : (op : PoolOp) → op.Reply → Option (SlotId × String)
  | .claim slot projectId _, .ok () => some (slot, projectId)
  | .claimNext, some (slot, request) => some (slot, request.projectId)
  | .holder projectId, some row => some (row.id, projectId)
  | .pauseIfHeld slot projectId, .ok () => some (slot, projectId)
  | _, _ => none

theorem Pool.tenant?_of_located {pool : Pool} {now : Millis} {op : PoolOp} {slot : SlotId}
    {projectId : String} (sound : pool.Sound)
    (located : op.located? (pool.perform now op).1 = some (slot, projectId)) :
    ∃ session, (pool.perform now op).2.tenant? slot = some (projectId, session) := by
  have claimed (booked : op.booking? (pool.perform now op).1 = some (.claim slot projectId)) :
      ∃ session, (pool.perform now op).2.tenant? slot = some (projectId, session) := by
    have transfers := (perform_effect sound now op).transfers sound
    rw [booked] at transfers
    obtain ⟨-, -, session, changed⟩ := transfers
    exact ⟨session, by rw [changed, Function.update_self]⟩
  revert located claimed
  cases op with
  | claim place claimant session =>
      cases (pool.perform now (.claim place claimant session)).1 <;>
        simp +contextual [PoolOp.located?, PoolOp.booking?]
  | claimNext =>
      cases (pool.perform now .claimNext).1 <;>
        simp +contextual [PoolOp.located?, PoolOp.booking?]
  | holder owner =>
      intro located
      cases found : pool.holder? owner with
      | none => simp [PoolOp.located?, perform, found] at located
      | some row =>
          simp only [PoolOp.located?, perform, found, Option.some.injEq, Prod.mk.injEq] at located
          obtain ⟨rfl, rfl⟩ := located
          exact fun _ => ⟨row.sessionId, tenant?_of_holder? sound found⟩
  | pauseIfHeld place owner =>
      intro located
      cases granted : (pool.pauseIfHeld place owner).1 with
      | error reason => simp [PoolOp.located?, perform, granted] at located
      | ok done =>
          simp only [PoolOp.located?, perform, granted, Option.some.injEq, Prod.mk.injEq] at located
          obtain ⟨rfl, rfl⟩ := located
          exact fun _ => Workflow.tenant?_of_pauseIfHeld sound granted
  | _ =>
      intro located
      simp [PoolOp.located?] at located

namespace Workflow

variable {start : Pool} {trail : Trail} {slot : SlotId} {projectId : String}

namespace Taken

variable {taken : Taken}

def left (taken : Taken) : Pool := taken.step.leave taken.pool taken.now

def use? (caller : Nat) : Taken → Option Use
  | ⟨_, now, .usePool op, _⟩ => some ⟨caller, now, op⟩
  | _ => none

def located? : Taken → Option (SlotId × String)
  | ⟨_, _, .usePool op, reply⟩ => op.located? reply
  | _ => none

/-- The answer is what the pool, the clock or a collaborator told. -/
inductive IsTold : Taken → Prop where
  | look (pool : Pool) (now : Millis) : IsTold ⟨pool, now, .readClock, now⟩
  | use (pool : Pool) (now : Millis) (op : PoolOp) :
      IsTold ⟨pool, now, .usePool op, (pool.perform now op).1⟩
  | call (pool : Pool) (now : Millis) (call : Call) (answer : call.Answer) :
      IsTold ⟨pool, now, .call call, answer⟩

theorem isTold_respond (pool : Pool) (now : Millis) (step : Step)
    (answers : (call : Call) → call.Answer) :
    IsTold ⟨pool, now, step, step.respond pool now answers⟩ := by
  cases step with
  | readClock => exact .look pool now
  | usePool op => exact .use pool now op
  | call call => exact .call pool now call (answers call)

theorem left_eq_run (taken : Taken) (caller : Nat) :
    taken.left = taken.pool.run (taken.use? caller).toList := by
  obtain ⟨pool, now, step, answer⟩ := taken
  cases step <;> rfl

theorem op_of_use? {caller : Nat} {use : Use}
    (used : taken.use? caller = some use) : taken.step = .usePool use.op := by
  obtain ⟨pool, now, step, answer⟩ := taken
  cases step with
  | usePool op =>
      simp only [use?, Option.some.injEq] at used
      rw [← used]
  | readClock => contradiction
  | call call => contradiction

theorem IsTold.served (told : taken.IsTold) (sound : taken.pool.Sound)
    (located : taken.located? = some (slot, projectId)) :
    ∃ session, taken.left.tenant? slot = some (projectId, session) := by
  cases told with
  | look pool now => contradiction
  | use pool now op => exact Pool.tenant?_of_located sound located
  | call pool now call answer => contradiction

theorem IsTold.transfers (told : taken.IsTold) (sound : taken.pool.Sound) :
    Pool.Transfers taken.pool.tenant? taken.left.tenant? taken.booking? := by
  cases told with
  | look pool now => rfl
  | use pool now op => exact (Pool.perform_effect sound now op).transfers sound
  | call pool now call answer => rfl

theorem step_of_freed (booked : taken.booking? = some (.free slot projectId)) :
    taken.step = .usePool (.free projectId) := by
  obtain ⟨pool, now, step, answer⟩ := taken
  cases step with
  | usePool op => exact congrArg Step.usePool (PoolOp.op_of_free booked)
  | readClock => contradiction
  | call call => contradiction

/-- A slot is freed only of the project that it serves. -/
theorem IsTold.tenant?_of_freed (told : taken.IsTold) (sound : taken.pool.Sound)
    (booked : taken.booking? = some (.free slot projectId)) :
    ∃ session, taken.pool.tenant? slot = some (projectId, session) := by
  have transfers := told.transfers sound
  rw [booked] at transfers
  exact transfers.1

end Taken

theorem tenant?_of_heldBy {pool : Pool} (sound : pool.Sound)
    (held : HeldBy pool slot projectId) :
    ∃ session, pool.tenant? slot = some (projectId, session) := by
  obtain ⟨row, member, number, holds⟩ := held
  exact ⟨row.sessionId, number ▸ Pool.tenant?_of_holds sound member holds⟩

/-- What others and the operation did with the pool, up to the step and with it. -/
def Stride.uses (stride : Stride) : List Use := stride.others ++ (stride.use? 0).toList

def othersIn (strides : List Stride) : List Use := strides.flatMap (·.others)

/-- The pools on a trail come from the first one by the uses before them. -/
structure Trail.Follows (start : Pool) (trail : Trail) : Prop where
  pool : trail.pool = start.run (trail.strides.flatMap (·.uses))
  strides : ∀ front stride back, trail.strides = front ++ stride :: back →
    stride.pool = start.run (front.flatMap (·.uses) ++ stride.others) ∧ stride.IsTold

theorem start_follows (start : Pool) : (Trail.start start).Follows start :=
  ⟨rfl, by simp [Trail.start]⟩

theorem Trail.Follows.after (follows : trail.Follows start) (others : List Use) (now : Millis)
    (step : Step) (answers : (call : Call) → call.Answer) :
    (trail.after others now step (step.respond (trail.pool.run others) now answers)).Follows
      start := by
  let new := trail.stride others now step (step.respond (trail.pool.run others) now answers)
  have found : new.pool = start.run (trail.strides.flatMap (·.uses) ++ others) := by
    rw [Pool.run_append, ← follows.pool]
    rfl
  constructor
  · change new.left = start.run ((trail.strides ++ [new]).flatMap (·.uses))
    rw [new.left_eq_run 0, found]
    simp [Stride.uses, new, Trail.stride]
  · intro front stride back split
    cases split_of_append split with
    | inl last =>
        obtain ⟨rfl, rfl⟩ := last
        exact ⟨found, Taken.isTold_respond _ now step answers⟩
    | inr before =>
        obtain ⟨rest, earlier⟩ := before
        exact follows.strides front stride rest earlier

theorem run_follows {α : Type} (follows : trail.Follows start) (company : Company)
    (steps : Steps α) : (trail.run company steps).2.Follows start := by
  induction steps generalizing trail with
  | done result => exact follows
  | ask step next ih => exact ih _ (follows.after _ _ _ _)

section Since

variable {front since back : List Stride} {finding stride : Stride}

theorem Trail.Follows.pool_since (follows : trail.Follows start)
    (split : trail.strides = front ++ finding :: since ++ stride :: back) :
    stride.pool = finding.left.run (since.flatMap (·.uses) ++ stride.others) := by
  have found := (follows.strides front finding (since ++ stride :: back) (by simp [split])).1
  rw [(follows.strides (front ++ finding :: since) stride back split).1,
    finding.toTaken.left_eq_run 0, found]
  simp [Stride.uses]

theorem Trail.Follows.sound_at (follows : trail.Follows start) (sound : start.Sound)
    (split : trail.strides = front ++ stride :: back) : stride.pool.Sound := by
  rw [(follows.strides front stride back split).1]
  exact sound.run _

/-- What neither the operation nor the others do between two steps is not done at all. -/
theorem kept_between {op : PoolOp} (own : ∀ step ∈ since, step.step ≠ .usePool op)
    (others : ∀ use ∈ othersIn (since ++ [stride]), use.op ≠ op) :
    ∀ use ∈ since.flatMap (·.uses) ++ stride.others, use.op ≠ op := by
  intro use member
  rw [List.mem_append, List.mem_flatMap] at member
  cases member with
  | inr last => exact others use (by simp [othersIn, last])
  | inl earlier =>
      obtain ⟨between, here, used⟩ := earlier
      cases List.mem_append.mp used with
      | inl other => exact others use (List.mem_flatMap.mpr ⟨between, by simp [here], other⟩)
      | inr mine =>
          intro frees
          refine own between here ?_
          rw [Taken.op_of_use? (Option.mem_toList.mp mine), frees]

/-- A slot still serves whom it served after a step, unless the project was freed since. -/
theorem Trail.Follows.still_served (follows : trail.Follows start) {session : String}
    (split : trail.strides = front ++ finding :: since ++ stride :: back)
    (sound : finding.left.Sound) (served : finding.left.tenant? slot = some (projectId, session))
    (own : ∀ step ∈ since, step.step ≠ .usePool (.free projectId))
    (others : ∀ use ∈ othersIn (since ++ [stride]), use.op ≠ .free projectId) :
    stride.pool.tenant? slot = some (projectId, session) := by
  rw [follows.pool_since split]
  exact Pool.run_tenant_stays sound served _ (kept_between own others)

/-- A project is still where the operation put or found it, unless it was freed since. -/
theorem Trail.Follows.still_held (follows : trail.Follows start) (sound : start.Sound)
    (split : trail.strides = front ++ finding :: since ++ stride :: back)
    (located : finding.located? = some (slot, projectId))
    (own : ∀ step ∈ since, step.step ≠ .usePool (.free projectId))
    (others : ∀ use ∈ othersIn (since ++ [stride]), use.op ≠ .free projectId) :
    HeldBy stride.pool slot projectId := by
  have regrouped : trail.strides = front ++ finding :: (since ++ stride :: back) := by simp [split]
  have foundSound := follows.sound_at sound regrouped
  have told := (follows.strides front finding _ regrouped).2
  obtain ⟨session, served⟩ := told.served foundSound located
  have leftSound : finding.left.Sound := sound_leave foundSound finding.now finding.step
  have still := follows.still_served split leftSound served own others
  exact heldBy_of_tenant? (follows.sound_at sound split) still

/-- A project is still where it was when the operation began, unless it was freed since. -/
theorem Trail.Follows.held_on (follows : trail.Follows start) (sound : start.Sound)
    (split : trail.strides = since ++ stride :: back) (held : HeldBy start slot projectId)
    (own : ∀ step ∈ since, step.step ≠ .usePool (.free projectId))
    (others : ∀ use ∈ othersIn (since ++ [stride]), use.op ≠ .free projectId) :
    HeldBy stride.pool slot projectId := by
  obtain ⟨session, served⟩ := tenant?_of_heldBy sound held
  have still := Pool.run_tenant_stays sound served _ (kept_between own others)
  rw [← (follows.strides since stride back split).1] at still
  exact heldBy_of_tenant? (follows.sound_at sound split) still

end Since

end Workflow

end WorkspacePool
