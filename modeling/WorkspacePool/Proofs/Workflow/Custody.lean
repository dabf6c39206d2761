import WorkspacePool.Proofs.Workflow.Lineage

/-!
What the steps of an operation rest on. A slot is set up for a project only after the operation has
claimed it, and torn down only after the operation has found the project there; a project is freed
right after its workspace was torn down or could not be set up, and it is said to run right after it
was set up or found. `Founded` says this of one step, by the steps that were taken before it.
-/

namespace WorkspacePool.Workflow

variable {trail : Trail} {others : List Use} {now : Millis} {slot freed : SlotId}
  {projectId sessionId brokerUrl : String}

/-! ### Operations that take steps of one kind -/

/-- Whatever it is answered, an operation takes steps of one kind only. -/
def Confined {α : Type} (kind : Step → Bool) : Steps α → Prop
  | .done _ => True
  | .ask step next => kind step = true ∧ ∀ answer, Confined kind (next answer)

section Confined

variable {α β : Type} {kind : Step → Bool} {steps : Steps α}

theorem Confined.pure (result : α) : Confined kind (pure result : Steps α) := trivial

theorem Confined.step {step : Step} (fits : kind step = true) :
    Confined kind (Dialogue.question step) :=
  ⟨fits, fun _ => trivial⟩

theorem Confined.bind {next : α → Steps β} (first : Confined kind steps)
    (second : ∀ result, Confined kind (next result)) : Confined kind (steps >>= next) := by
  induction steps with
  | done result => exact second result
  | ask step rest ih => exact ⟨first.1, fun answer => ih answer (first.2 answer)⟩

theorem confined_anyhow (steps : Steps α) : Confined (fun _ => true) steps := by
  induction steps with
  | done result => trivial
  | ask step next ih => exact ⟨rfl, ih⟩

theorem Confined.withstands {kept : Trail → Prop}
    (keeps : ∀ (trail : Trail) others now step (answer : step.Answer), kind step = true →
      kept trail → kept (trail.after others now step answer))
    (confined : Confined kind steps) (start : kept trail) :
    Withstands (fun _ after => kept after) steps trail := by
  induction steps generalizing trail with
  | done result => exact start
  | ask step next ih =>
      intro others now answers
      exact ih _ (confined.2 _) (keeps trail others now step _ confined.1 start)

theorem Withstands.and {left right : α → Trail → Prop} (first : Withstands left steps trail)
    (second : Withstands right steps trail) :
    Withstands (fun result after => left result after ∧ right result after) steps trail := by
  induction steps generalizing trail with
  | done result => exact ⟨first, second⟩
  | ask step next ih => exact fun others now answers => ih _ (first _ _ _) (second _ _ _)

end Confined

/-! ### Operations that keep to a rule -/

/-- Every step is one that the rule allows after the steps before it. -/
def Obeys (rule : List Stride → Step → Prop) (strides : List Stride) : Prop :=
  ∀ front stride back, strides = front ++ stride :: back → rule front stride.step

section Obeys

variable {rule : List Stride → Step → Prop} {strides : List Stride} {stride : Stride}

theorem obeys_nil : Obeys rule [] := by
  intro front stride back split
  simp at split

theorem Obeys.append (obeys : Obeys rule strides) (allowed : rule strides stride.step) :
    Obeys rule (strides ++ [stride]) := by
  intro front found back split
  cases split_of_append split with
  | inl new =>
      obtain ⟨rfl, rfl⟩ := new
      exact allowed
  | inr before =>
      obtain ⟨rest, earlier⟩ := before
      exact obeys front found rest earlier

theorem Obeys.of_append {later : List Stride} (obeys : Obeys rule (strides ++ later)) :
    Obeys rule strides := by
  intro front stride back split
  exact obeys front stride (back ++ later) (by simp [split])

/-- Steps of a kind that is always allowed keep to a rule. -/
theorem Confined.obeys {α : Type} {kind : Step → Bool} {steps : Steps α}
    (allowed : ∀ earlier step, kind step = true → rule earlier step)
    (confined : Confined kind steps) (obeys : Obeys rule trail.strides) :
    Withstands (fun _ after => Obeys rule after.strides) steps trail :=
  confined.withstands (fun trail _ _ step _ fits obeys =>
    obeys.append (allowed trail.strides step fits)) obeys

end Obeys

/-! ### Custody of a slot -/

namespace Taken

/-- The workspace that the step tore down, or could not set up. -/
def vacated? : Taken → Option (SlotId × String)
  | ⟨_, _, .call (.release slot projectId), _⟩ => some (slot, projectId)
  | ⟨_, _, .call (.assign slot assignment), .error _⟩ => some (slot, assignment.projectId)
  | _ => none

def setUp? : Taken → Option (SlotId × Assignment)
  | ⟨_, _, .call (.assign slot assignment), .ok ()⟩ => some (slot, assignment)
  | _ => none

end Taken

/-- A step put the project into the slot or found it there, and the operation has neither freed it
nor come upon it there since. -/
structure Custody (earlier : List Stride) (finding : Stride) (since : List Stride) (slot : SlotId)
    (projectId : String) : Prop where
  split : ∃ front, earlier = front ++ finding :: since
  located : finding.located? = some (slot, projectId)
  kept : ∀ own ∈ since, own.step ≠ .usePool (.free projectId)
  latest : ∀ own ∈ since, own.located? ≠ some (slot, projectId)

def InCustody (earlier : List Stride) (slot : SlotId) (projectId : String) : Prop :=
  ∃ finding since, Custody earlier finding since slot projectId

/-- The operation claimed the slot for the project and has not freed it since. -/
def Claimed (earlier : List Stride) (slot : SlotId) (projectId : String) : Prop :=
  ∃ finding since, Custody earlier finding since slot projectId ∧
    finding.booking? = some (.claim slot projectId)

/-- What the steps before a step have to be for it to be taken. -/
def Founded (earlier : List Stride) : Step → Prop
  | .call (.assign slot assignment) => Claimed earlier slot assignment.projectId
  | .call (.release slot projectId) => InCustody earlier slot projectId
  | .usePool (.free projectId) => ∃ front vacating slot, earlier = front ++ [vacating] ∧
      vacating.vacated? = some (slot, projectId)
  | .call (.publish report) => report.status = .running →
      ∃ front before slot, earlier = front ++ [before] ∧ report.message = runningMessage slot ∧
        (before.step = .usePool (.touch slot) ∨ ∃ assignment,
          before.setUp? = some (slot, assignment) ∧ assignment.projectId = report.projectId ∧
          assignment.sessionId = report.sessionId)
  | .usePool (.mark slot status) => status = .paused ∧
      ∃ front lookup telling projectId, earlier = front ++ [lookup, telling] ∧
        lookup.located? = some (slot, projectId) ∧ telling.ReportsPausing projectId
  | _ => True

def AllFounded (strides : List Stride) : Prop :=
  ∀ front stride back, strides = front ++ stride :: back → Founded front stride.step

/-- A step that rests on nothing. -/
def Step.isPlain : Step → Bool
  | .call (.assign _ _) | .call (.release _ _) | .usePool (.free _) | .usePool (.mark _ _) => false
  | .call (.publish report) => report.status != .running
  | _ => true

def Consequence.freed? : Consequence → Option SlotId
  | .released slot _ | .paused slot _ => slot
  | _ => none

/-- The operation freed a slot right after it tore down the project's workspace. -/
def TornDown (strides : List Stride) (freed : SlotId) (projectId : String) : Prop :=
  ∃ front tearing freeing back slot, strides = front ++ tearing :: freeing :: back ∧
    tearing.step = .call (.release slot projectId) ∧
    freeing.booking? = some (.free freed projectId)

section Custody

variable {earlier strides : List Stride} {stride : Stride}

theorem Custody.append {finding : Stride} {since : List Stride}
    (custody : Custody earlier finding since slot projectId)
    (kept : stride.step ≠ .usePool (.free projectId))
    (unlocated : stride.located? ≠ some (slot, projectId)) :
    Custody (earlier ++ [stride]) finding (since ++ [stride]) slot projectId := by
  obtain ⟨front, split⟩ := custody.split
  refine ⟨⟨front, by simp [split]⟩, custody.located, ?_, ?_⟩
  · intro own member
    cases List.mem_append.mp member with
    | inl before => exact custody.kept own before
    | inr new =>
        rw [List.mem_singleton.mp new]
        exact kept
  · intro own member
    cases List.mem_append.mp member with
    | inl before => exact custody.latest own before
    | inr new =>
        rw [List.mem_singleton.mp new]
        exact unlocated

theorem Claimed.append (claimed : Claimed earlier slot projectId)
    (kept : stride.step ≠ .usePool (.free projectId))
    (unlocated : stride.located? ≠ some (slot, projectId)) :
    Claimed (earlier ++ [stride]) slot projectId := by
  obtain ⟨finding, since, custody, booked⟩ := claimed
  exact ⟨finding, since ++ [stride], custody.append kept unlocated, booked⟩

theorem InCustody.append (custody : InCustody earlier slot projectId)
    (kept : stride.step ≠ .usePool (.free projectId))
    (unlocated : stride.located? ≠ some (slot, projectId)) :
    InCustody (earlier ++ [stride]) slot projectId := by
  obtain ⟨finding, since, custody⟩ := custody
  exact ⟨finding, since ++ [stride], custody.append kept unlocated⟩

theorem inCustody_of_located (located : stride.located? = some (slot, projectId)) :
    InCustody (earlier ++ [stride]) slot projectId :=
  ⟨stride, [], ⟨earlier, rfl⟩, located, by simp, by simp⟩

theorem claimed_of_booked (located : stride.located? = some (slot, projectId))
    (booked : stride.booking? = some (.claim slot projectId)) :
    Claimed (earlier ++ [stride]) slot projectId :=
  ⟨stride, [], ⟨⟨earlier, rfl⟩, located, by simp, by simp⟩, booked⟩

theorem tornDown_of_last {front : List Stride} {tearing freeing : Stride}
    (last : earlier = front ++ [tearing]) (tears : tearing.step = .call (.release slot projectId))
    (frees : freeing.booking? = some (.free freed projectId)) :
    TornDown (earlier ++ [freeing]) freed projectId :=
  ⟨front, tearing, freeing, [], slot, by simp [last], tears, frees⟩

theorem booking?_of_freed {reply : (PoolOp.free projectId).Reply}
    (told : reply.toOption = some freed) :
    (PoolOp.free projectId).booking? reply = some (.free freed projectId) := by
  cases reply with
  | ok slot => simpa [PoolOp.booking?, Except.toOption] using told
  | error reason => contradiction

theorem TornDown.append (torn : TornDown strides freed projectId) :
    TornDown (strides ++ [stride]) freed projectId := by
  obtain ⟨front, tearing, freeing, back, slot, split, tears, frees⟩ := torn
  exact ⟨front, tearing, freeing, back ++ [stride], slot, by simp [split], tears, frees⟩

theorem founded_of_plain {step : Step} (plain : step.isPlain = true) : Founded earlier step := by
  cases step with
  | readClock => trivial
  | usePool op => cases op <;> trivial
  | call call =>
      cases call with
      | publish report =>
          intro running
          simp [Step.isPlain, running] at plain
      | lookUpToken userId => trivial
      | _ => contradiction

theorem allFounded_nil : AllFounded [] := obeys_nil

theorem AllFounded.append (founded : AllFounded strides) (next : Founded strides stride.step) :
    AllFounded (strides ++ [stride]) :=
  Obeys.append founded next

theorem AllFounded.of_append {later : List Stride} (founded : AllFounded (strides ++ later)) :
    AllFounded strides :=
  Obeys.of_append founded

end Custody

/-! ### Steps of an operation -/

section Steps

variable {step : Step} {answer : step.Answer}

theorem AllFounded.plain (founded : AllFounded trail.strides) (plain : step.isPlain = true) :
    AllFounded (trail.after others now step answer).strides :=
  founded.append (founded_of_plain plain)

theorem Confined.founded {α : Type} {steps : Steps α} (confined : Confined Step.isPlain steps)
    (founded : AllFounded trail.strides) :
    Withstands (fun _ after => AllFounded after.strides) steps trail :=
  confined.obeys (fun _ _ plain => founded_of_plain plain) founded

theorem TornDown.stays {α : Type} (torn : TornDown trail.strides freed projectId)
    (steps : Steps α) :
    Withstands (fun _ after => TornDown after.strides freed projectId) steps trail :=
  (confined_anyhow steps).withstands (fun _ _ _ _ _ _ torn => torn.append) torn

theorem AllFounded.assign {assignment : Assignment}
    {answer : (Call.assign slot assignment).Answer} (founded : AllFounded trail.strides)
    (claimed : Claimed trail.strides slot assignment.projectId) :
    AllFounded (trail.after others now (.call (.assign slot assignment)) answer).strides :=
  founded.append claimed

theorem AllFounded.release {answer : (Call.release slot projectId).Answer}
    (founded : AllFounded trail.strides) (custody : InCustody trail.strides slot projectId) :
    AllFounded (trail.after others now (.call (.release slot projectId)) answer).strides :=
  founded.append custody

theorem AllFounded.free {reply : (PoolOp.free projectId).Reply} {vacating : Stride}
    {front : List Stride} (founded : AllFounded trail.strides)
    (last : trail.strides = front ++ [vacating])
    (vacated : vacating.vacated? = some (slot, projectId)) :
    AllFounded (trail.after others now (.usePool (.free projectId)) reply).strides :=
  founded.append ⟨front, vacating, slot, last, vacated⟩

theorem AllFounded.run {report : Report} {answer : (Call.publish report).Answer}
    {before : Stride} {front : List Stride} (founded : AllFounded trail.strides)
    (last : trail.strides = front ++ [before]) (message : report.message = runningMessage slot)
    (running : before.step = .usePool (.touch slot) ∨ ∃ assignment,
      before.setUp? = some (slot, assignment) ∧ assignment.projectId = report.projectId ∧
      assignment.sessionId = report.sessionId) :
    AllFounded (trail.after others now (.call (.publish report)) answer).strides :=
  founded.append fun _ => ⟨front, before, slot, last, message, running⟩

theorem AllFounded.mark {reply : (PoolOp.mark slot .paused).Reply} {lookup telling : Stride}
    {front : List Stride} (founded : AllFounded trail.strides)
    (last : trail.strides = front ++ [lookup, telling])
    (located : lookup.located? = some (slot, projectId))
    (pausing : telling.ReportsPausing projectId) :
    AllFounded (trail.after others now (.usePool (.mark slot .paused)) reply).strides :=
  founded.append ⟨rfl, front, lookup, telling, projectId, last, located, pausing⟩

end Steps

end WorkspacePool.Workflow
