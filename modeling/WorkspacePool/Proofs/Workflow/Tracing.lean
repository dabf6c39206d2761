import WorkspacePool.Proofs.Workflow.Floor
import WorkspacePool.Proofs.Workflow.Founding

/-!
What the log of a floor tells. The steps of each worker make the trail of operations among others,
so whatever an operation withstands holds of them (`Floor.Traced`). And the pool remembers the log:
a project is where it was put or found, unless it was freed from there since (`Remembers`).
-/

namespace WorkspacePool.Workflow

variable {floor : Floor} {worker other : Nat} {now : Millis} {step : Step} {answer : step.Answer}
  {answers : (call : Call) → call.Answer} {rest : Steps Unit} {log earlier later : List Entry}
  {entry : Entry} {slot : SlotId} {projectId brokerUrl : String}

/-! ### The steps of a worker -/

def stepsOf (worker : Nat) (log : List Entry) : List Taken :=
  (log.filter (·.worker == worker)).map (·.toTaken)

theorem stepsOf_append : stepsOf worker (earlier ++ later) =
    stepsOf worker earlier ++ stepsOf worker later := by
  simp [stepsOf]

theorem stepsOf_cons (own : entry.worker = worker) :
    stepsOf worker (entry :: later) = entry.toTaken :: stepsOf worker later := by
  simp [stepsOf, own]

theorem mem_stepsOf (member : entry ∈ log) (own : entry.worker = worker) :
    entry.toTaken ∈ stepsOf worker log :=
  List.mem_map_of_mem (List.mem_filter.mpr ⟨member, by simpa using own⟩)

theorem exists_entry {front back : List Taken} {taken : Taken}
    (split : stepsOf worker log = front ++ taken :: back) :
    ∃ earlier entry later, log = earlier ++ entry :: later ∧ entry.worker = worker ∧
      entry.toTaken = taken ∧ stepsOf worker earlier = front ∧ stepsOf worker later = back := by
  obtain ⟨before, after, own, ahead, behind⟩ := List.map_eq_append_iff.mp split
  obtain ⟨found, tail, rfl, same, last⟩ := List.map_eq_cons_iff.mp behind
  obtain ⟨start, finish, rfl, first, second⟩ := List.filter_eq_append_iff.mp own
  obtain ⟨between, later, rfl, others, isOwn, final⟩ := List.filter_eq_cons_iff.mp second
  have none : between.filter (·.worker == worker) = [] := List.filter_eq_nil_iff.mpr others
  refine ⟨start ++ between, found, later, by simp, by simpa using isOwn, same, ?_, ?_⟩
  · rw [stepsOf, List.filter_append, none, first, List.append_nil, ahead]
  · rw [stepsOf, final, last]

theorem exists_stride {strides : List Stride} {front back : List Taken} {taken : Taken}
    (split : strides.map (·.toTaken) = front ++ taken :: back) :
    ∃ earlier stride later, strides = earlier ++ stride :: later ∧ stride.toTaken = taken ∧
      earlier.map (·.toTaken) = front := by
  obtain ⟨before, after, rfl, ahead, behind⟩ := List.map_eq_append_iff.mp split
  obtain ⟨found, tail, rfl, same, -⟩ := List.map_eq_cons_iff.mp behind
  exact ⟨before, found, tail, rfl, same, ahead⟩

/-! ### Trails of workers -/

/-- The trail of a worker's steps so far. What others did with the pool since is still to be put
before the worker's next step. -/
structure Floor.Traces (floor : Floor) (worker : Nat) (trail : Trail) (pending : List Use) :
    Prop where
  steps : trail.strides.map (·.toTaken) = stepsOf worker floor.log
  pool : trail.pool.run pending = floor.pool
  founded : Withstands (fun _ after => AllFounded after.strides) (floor.workers worker) trail

def Floor.Traced (floor : Floor) : Prop :=
  ∀ worker, ∃ trail pending, floor.Traces worker trail pending

/-- Steps that are founded in the end are founded from the beginning. -/
theorem Withstands.founded {α : Type} {steps : Steps α} {trail : Trail}
    (withstands : Withstands (fun _ after => AllFounded after.strides) steps trail) :
    AllFounded trail.strides := by
  induction steps generalizing trail with
  | done result => exact withstands
  | ask step next ih =>
      exact (ih _ (withstands [] 0 ((Company.interfering 0 []).answer 0))).of_append

section Traces

variable {trail : Trail} {pending : List Use}

theorem Floor.Traces.own (traces : floor.Traces worker trail pending)
    {next : step.Answer → Steps Unit} (busy : floor.workers worker = .ask step next)
    (told : step.respond floor.pool now answers = answer) :
    (floor.advance worker now step answer (next answer)).Traces worker
      (trail.after pending now step answer) [] := by
  have founded := traces.founded
  rw [busy] at founded
  refine ⟨?_, ?_, ?_⟩
  · simp only [Trail.after, Floor.advance, List.map_append, stepsOf_append, traces.steps]
    simp [stepsOf, Trail.stride, traces.pool]
  · exact congrArg (step.leave · now) traces.pool
  · rw [workers_advance, ← told, ← traces.pool]
    exact founded pending now answers

theorem Floor.Traces.others (traces : floor.Traces other trail pending)
    (different : worker ≠ other) :
    ∃ latest, (floor.advance worker now step answer rest).Traces other trail
      (pending ++ latest) := by
  -- To this worker the step of the other one is at most a use of the pool, yet to be counted.
  let taken : Taken := ⟨floor.pool, now, step, answer⟩
  refine ⟨(taken.use? worker).toList, ?_, ?_, ?_⟩
  · simpa [Floor.advance, stepsOf, different] using traces.steps
  · rw [Pool.run_append, traces.pool, ← taken.left_eq_run worker]
    rfl
  · rw [workers_advance_of_ne different]
    exact traces.founded

theorem Floor.Traces.start (traces : floor.Traces worker trail pending)
    (idle : floor.workers other = .done ()) (operation : Operation) :
    Floor.Traces { floor with
      workers := Function.update floor.workers other (operation.steps brokerUrl) } worker trail
        pending := by
  refine ⟨traces.steps, traces.pool, ?_⟩
  by_cases same : worker = other
  -- Operations withstand any trail before them, so the trail need not begin anew.
  · subst same
    simp only [Function.update_self]
    exact operation_founded traces.founded.founded operation
  · simpa only [Function.update_of_ne same] using traces.founded

theorem Floor.Traced.start (traced : floor.Traced) (idle : floor.workers worker = .done ())
    (operation : Operation) : Floor.Traced { floor with
      workers := Function.update floor.workers worker (operation.steps brokerUrl) } := by
  intro other
  obtain ⟨trail, pending, traces⟩ := traced other
  exact ⟨trail, pending, traces.start idle operation⟩

theorem Floor.Traced.advance (traced : floor.Traced) {next : step.Answer → Steps Unit}
    (busy : floor.workers worker = .ask step next)
    (told : step.respond floor.pool now answers = answer) :
    (floor.advance worker now step answer (next answer)).Traced := by
  intro other
  obtain ⟨trail, pending, traces⟩ := traced other
  by_cases same : worker = other
  · subst same
    exact ⟨_, _, traces.own busy told⟩
  · obtain ⟨latest, grown⟩ := traces.others same
    exact ⟨trail, _, grown⟩

end Traces

theorem Floor.Traced.run (traced : floor.Traced) (turns : List Turn) :
    (floor.run brokerUrl turns).Traced := by
  apply Floor.run_keeps Floor.Traced _ _ turns traced
  · exact fun floor worker operation traced idle => traced.start idle operation
  · exact fun floor worker now answers step next traced busy => traced.advance busy rfl

theorem fresh_traced (slotCount : UInt32) (capacity : Nat) (start : Millis) :
    (Floor.fresh slotCount capacity start).Traced :=
  fun _ => ⟨.start _, [], rfl, rfl, allFounded_nil⟩

/-- What a worker's step rests on is found among the worker's earlier steps. -/
theorem Floor.Traced.founded (traced : floor.Traced)
    (split : floor.log = earlier ++ entry :: later) :
    ∃ strides : List Stride, strides.map (·.toTaken) = stepsOf entry.worker earlier ∧
      Founded strides entry.step := by
  obtain ⟨trail, pending, traces⟩ := traced entry.worker
  have steps := traces.steps
  rw [split, stepsOf_append, stepsOf_cons rfl] at steps
  obtain ⟨front, stride, back, strides, same, ahead⟩ := exists_stride steps
  have founded := traces.founded.founded front stride back strides
  exact ⟨front, ahead, same ▸ founded⟩

/-! ### What the pool remembers -/

/-- A project is in the slot that it was put into or found in, unless it was freed from it since. -/
def Remembers (log : List Entry) (pool : Pool) : Prop :=
  ∀ earlier finding later slot projectId, log = earlier ++ finding :: later →
    finding.located? = some (slot, projectId) →
    (∃ session, pool.tenant? slot = some (projectId, session)) ∨
      ∃ freeing ∈ later, freeing.booking? = some (.free slot projectId)

/-- The pool remembers the log, and so did it at every step. -/
structure Floor.Recorded (floor : Floor) : Prop where
  sound : floor.pool.Sound
  remembers : Remembers floor.log floor.pool
  entries : ∀ earlier entry later, floor.log = earlier ++ entry :: later →
    entry.IsTold ∧ entry.pool.Sound ∧ Remembers earlier entry.pool

theorem Taken.IsTold.tenant_kept {taken : Taken} (told : taken.IsTold) (sound : taken.pool.Sound)
    {session : String} (served : taken.pool.tenant? slot = some (projectId, session))
    (kept : taken.booking? ≠ some (.free slot projectId)) :
    taken.left.tenant? slot = some (projectId, session) := by
  cases told with
  | look pool now => exact served
  | use pool now op => exact (Pool.perform_effect sound now op).tenant_kept sound served kept
  | call pool now call answer => exact served

theorem Floor.Recorded.advance (recorded : floor.Recorded)
    (told : step.respond floor.pool now answers = answer) :
    (floor.advance worker now step answer rest).Recorded := by
  subst told
  let answer := step.respond floor.pool now answers
  let new : Entry := { pool := floor.pool, now, step, answer, worker }
  have newTold : new.IsTold := Taken.isTold_respond floor.pool now step answers
  refine ⟨sound_leave recorded.sound now step, ?_, ?_⟩
  · intro earlier finding later slot projectId split located
    change floor.log ++ [new] = _ at split
    change (∃ session, new.left.tenant? slot = some (projectId, session)) ∨ _
    cases split_of_append split with
    | inl last =>
        obtain ⟨-, rfl⟩ := last
        exact .inl (newTold.served recorded.sound located)
    | inr before =>
        obtain ⟨between, before⟩ := before
        obtain rfl : between ++ [new] = later := by simpa [before] using split
        cases recorded.remembers earlier finding between slot projectId before located with
        | inl served =>
            obtain ⟨session, served⟩ := served
            by_cases freed : new.booking? = some (.free slot projectId)
            · exact .inr ⟨new, by simp, freed⟩
            · exact .inl ⟨session, newTold.tenant_kept recorded.sound served freed⟩
        | inr freed =>
            obtain ⟨freeing, member, booked⟩ := freed
            exact .inr ⟨freeing, by simp [member], booked⟩
  · intro earlier entry later split
    cases split_of_append split with
    | inl last =>
        obtain ⟨rfl, rfl⟩ := last
        exact ⟨newTold, recorded.sound, recorded.remembers⟩
    | inr before =>
        obtain ⟨between, before⟩ := before
        exact recorded.entries earlier entry between before

theorem Floor.Recorded.run (recorded : floor.Recorded) (turns : List Turn) :
    (floor.run brokerUrl turns).Recorded := by
  apply Floor.run_keeps Floor.Recorded _ _ turns recorded
  · exact fun floor _ _ recorded _ => ⟨recorded.sound, recorded.remembers, recorded.entries⟩
  · exact fun floor worker now answers step next recorded _ => recorded.advance rfl

theorem fresh_recorded (slotCount : UInt32) (capacity : Nat) (start : Millis) :
    (Floor.fresh slotCount capacity start).Recorded := by
  refine ⟨Pool.create_sound slotCount capacity start, ?_, ?_⟩
  · intro earlier finding later slot projectId split
    simp [Floor.fresh] at split
  · intro earlier entry later split
    simp [Floor.fresh] at split

end WorkspacePool.Workflow
