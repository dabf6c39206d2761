import WorkspacePool.Proofs.Workflow.Founding

/-!
Reports that a workspace runs. A slot that was claimed is reported to run right after its workspace
was set up, and not at all when that fails. The pool is not asked again, so the slot is the
project's own at the report unless others have freed the project since it was claimed.
-/

namespace WorkspacePool.Workflow

variable {start : Pool} {trail : Trail} {front back : List Stride} {before running : Stride}
  {slot : SlotId} {request : Request} {report : Report} {assignment : Assignment}
  {brokerUrl : String}

/-- The three steps by which a slot is set up for a request, and what they come to. -/
structure SetsUp (brokerUrl : String) (slot : SlotId) (request : Request)
    (telling assigning ending : Stride) (result : Except WorkflowError Unit) : Prop where
  told : telling.step =
    .call (.publish (reportOn request .provisioning (provisioningMessage slot)))
  asked : assigning.step = .call (.assign slot (.ofRequest request brokerUrl))
  ended : (assigning.setUp? = some (slot, .ofRequest request brokerUrl) ∧
      ending.step = .call (.publish (reportOn request .running (runningMessage slot))) ∧
      result = .ok ()) ∨
    (assigning.vacated? = some (slot, request.projectId) ∧
      ending.step = .usePool (.free request.projectId) ∧
      ∃ reason, result = .error (.provision reason))

theorem provision_sets_up : Withstands (fun result after => ∃ telling assigning ending,
    after.strides = trail.strides ++ [telling, assigning, ending] ∧
      SetsUp brokerUrl slot request telling assigning ending result)
    (provision brokerUrl slot request) trail := by
  have grown (first second third : Stride) : trail.strides ++ [first] ++ [second] ++ [third] =
      trail.strides ++ [first, second, third] := by simp
  unfold provision
  refine .call fun others now told => .call fun rivals later outcome => ?_
  cases outcome with
  | error reason =>
      refine .use fun last latest => .pure ⟨_, _, _, grown _ _ _, rfl, rfl, .inr ?_⟩
      exact ⟨rfl, rfl, reason, rfl⟩
  | ok done =>
      refine .call fun last latest answer => .pure ⟨_, _, _, grown _ _ _, rfl, rfl, .inl ?_⟩
      exact ⟨rfl, rfl, rfl⟩

theorem SetsUp.keeps {telling assigning ending : Stride} {result : Except WorkflowError Unit}
    (sets : SetsUp brokerUrl slot request telling assigning ending result) (projectId : String) :
    ∀ step ∈ [telling, assigning], step.step ≠ .usePool (.free projectId) := by
  simp [sets.told, sets.asked]

theorem provision_ends (sound : start.Sound) (company : Company) (brokerUrl : String)
    (slot : SlotId) (request : Request) :
    let ends := (Trail.start start).run company (provision brokerUrl slot request)
    ∃ telling assigning ending, ends.2.strides = [telling, assigning, ending] ∧
      SetsUp brokerUrl slot request telling assigning ending ends.1 ∧
      (HeldBy start slot request.projectId →
        (∀ use ∈ othersIn ends.2.strides, use.op ≠ .free request.projectId) →
          HeldBy ending.pool slot request.projectId) := by
  intro ends
  have follows : ends.2.Follows start := run_follows (start_follows start) company _
  obtain ⟨telling, assigning, ending, strides, sets⟩ : ∃ telling assigning ending,
      ends.2.strides = [] ++ [telling, assigning, ending] ∧
        SetsUp brokerUrl slot request telling assigning ending ends.1 :=
    provision_sets_up.run company
  refine ⟨telling, assigning, ending, strides, sets, ?_⟩
  intro held others
  rw [strides] at others
  have split : ends.2.strides = [telling, assigning] ++ ending :: [] := strides
  exact follows.held_on sound split held (sets.keeps request.projectId) others

theorem AllFounded.setUp {strides : List Stride} (founded : AllFounded strides)
    (split : strides = front ++ before :: back)
    (setUp : before.setUp? = some (slot, assignment)) :
    Claimed front slot assignment.projectId ∧
      before.step = .call (.assign slot assignment) := by
  have rests := founded front before back split
  obtain ⟨⟨pool, now, step, answer⟩, others⟩ := before
  cases step with
  | readClock => contradiction
  | usePool op => contradiction
  | call call =>
      cases call with
      | assign place given =>
          cases answer with
          | error reason => contradiction
          | ok done =>
              simp only [Taken.setUp?, Option.some.injEq, Prod.mk.injEq] at setUp
              obtain ⟨rfl, rfl⟩ := setUp
              exact ⟨rests, rfl⟩
      | release place owner => contradiction
      | publish report => contradiction
      | lookUpToken userId => contradiction

/-- What comes before a project is reported to run in a slot: activity was noted there, or the
operation claimed the slot for the project and has just set it up. Then the project holds the slot,
unless others have freed it since it was claimed. -/
def Confirmed (earlier : List Stride) (running : Stride) (report : Report) : Prop :=
  ∃ front before slot, earlier = front ++ [before] ∧ report.message = runningMessage slot ∧
    (before.step = .usePool (.touch slot) ∨
      ∃ claiming since assignment, Custody front claiming since slot report.projectId ∧
        claiming.booking? = some (.claim slot report.projectId) ∧
        before.setUp? = some (slot, assignment) ∧ assignment.projectId = report.projectId ∧
        assignment.sessionId = report.sessionId ∧
        ((∀ use ∈ othersIn (since ++ [before, running]), use.op ≠ .free report.projectId) →
          HeldBy running.pool slot report.projectId))

theorem Trail.Follows.confirmed (follows : trail.Follows start) (sound : start.Sound)
    (founded : AllFounded trail.strides) (split : trail.strides = front ++ running :: back)
    (published : running.step = .call (.publish report)) (status : report.status = .running) :
    Confirmed front running report := by
  have rests := founded front running back split
  rw [published] at rests
  obtain ⟨earlier, before, slot, rfl, message, reason⟩ := rests status
  refine ⟨earlier, before, slot, rfl, message, ?_⟩
  cases reason with
  | inl touched => exact .inl touched
  | inr setUp =>
      obtain ⟨assignment, setUp, sameProject, sameSession⟩ := setUp
      have regrouped : trail.strides = earlier ++ before :: running :: back := by simp [split]
      obtain ⟨⟨claiming, since, custody, booked⟩, asked⟩ := founded.setUp regrouped setUp
      rw [sameProject] at custody booked
      refine .inr ⟨claiming, since, assignment, custody, booked, setUp, sameProject, sameSession,
        ?_⟩
      intro others
      obtain ⟨first, rfl⟩ := custody.split
      have kept : ∀ own ∈ since ++ [before], own.step ≠ .usePool (.free report.projectId) := by
        intro own member
        cases List.mem_append.mp member with
        | inl earlier => exact custody.kept own earlier
        | inr last => simp [List.mem_singleton.mp last, asked]
      have between : trail.strides = first ++ claiming :: (since ++ [before]) ++ running :: back :=
        by simp [split]
      exact follows.still_held sound between custody.located kept (by simpa using others)

/-- Whatever others do before each step, setting up a claimed slot ends in the report that it runs
exactly when the provisioner succeeded, and else in freeing the project. At that step the slot is
still held by the project if it was at first and others have not freed the project since. In every
operation, a report that a workspace runs follows as it should. -/
theorem running_follows_setUp (slotCount : UInt32) (capacity : Nat) (now : Millis)
    (history : List Use) (company : Company) (brokerUrl : String) :
    let pool := (Pool.create slotCount capacity now).run history
    (∀ slot request,
      let (result, trail) := (Trail.start pool).run company (provision brokerUrl slot request)
      ∃ telling assigning ending, trail.strides = [telling, assigning, ending] ∧
        SetsUp brokerUrl slot request telling assigning ending result ∧
        (HeldBy pool slot request.projectId →
          (∀ use ∈ othersIn trail.strides, use.op ≠ .free request.projectId) →
            HeldBy ending.pool slot request.projectId)) ∧
    ∀ operation : Operation,
      let trail := ((Trail.start pool).run company (operation.steps brokerUrl)).2
      ∀ front running back report, trail.strides = front ++ running :: back →
        running.step = .call (.publish report) → report.status = .running →
          Confirmed front running report := by
  intro pool
  have sound : pool.Sound := (Pool.create_sound slotCount capacity now).run history
  constructor
  · exact fun slot request => provision_ends sound company brokerUrl slot request
  · intro operation trail front running back report split published status
    have nothing : AllFounded (Trail.start pool).strides := allFounded_nil
    have founded : AllFounded trail.strides := (operation_founded nothing operation).run company
    have follows : trail.Follows pool := run_follows (start_follows pool) company _
    exact follows.confirmed sound founded split published status

/-- When others free the project while its workspace is set up and another one claims the slot, the
first project is reported to run in the slot of the second. -/
theorem running_report_can_be_outdated :
    let pool := (Pool.create 1 1 0).run [⟨0, 0, .claim ⟨1⟩ "first" "session"⟩]
    let company := Company.interfering 2
      [⟨1, 0, .free "first"⟩, ⟨1, 0, .claim ⟨1⟩ "second" "session"⟩]
    let request : Request := ⟨"first", "", "", "session", "", "", 0⟩
    let trail := ((Trail.start pool).run company (provision "" ⟨1⟩ request)).2
    HeldBy pool ⟨1⟩ "first" ∧ ∃ running ∈ trail.strides,
      running.step = .call (.publish (reportOn request .running (runningMessage ⟨1⟩))) ∧
        ¬ HeldBy running.pool ⟨1⟩ "first" ∧ HeldBy running.pool ⟨1⟩ "second" := by
  decide +kernel

end WorkspacePool.Workflow
