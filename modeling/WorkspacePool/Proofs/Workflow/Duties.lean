import WorkspacePool.Proofs.Workflow.Tracing

/-!
What an operation owes once it has begun something. Who has claimed a slot for a project goes on to
set the slot up, and frees the project when that fails. Who has begun to pause a project goes on to
free it, unless no slot holds it any more. In between it does nothing else, and no operation ends
before its duties are done (`operation_diligent`).
-/

namespace WorkspacePool

/-- The slot in which a reply says a project to be held already. -/
def PoolOp.sighted? : (op : PoolOp) → op.Reply → Option (SlotId × String)
  | .holder projectId, some row => some (row.id, projectId)
  | .claim _ projectId _, .error (.alreadyAssigned _ place) => some (place, projectId)
  | _, _ => none

namespace Workflow

inductive Duty where
  | setUp (slot : SlotId) (projectId : String)
  | reclaim (projectId : String)
deriving DecidableEq, Repr

namespace Taken

def sighted? : Taken → Option (SlotId × String)
  | ⟨_, _, .usePool op, reply⟩ => op.sighted? reply
  | _ => none

/-- The duty that a step brings about: a slot was claimed, or a pause has begun. -/
def incurs? : Taken → Option Duty
  | ⟨_, _, .usePool (.claim slot projectId _), .ok ()⟩ => some (.setUp slot projectId)
  | ⟨_, _, .usePool .claimNext, some (slot, request)⟩ => some (.setUp slot request.projectId)
  | ⟨_, _, .usePool (.pauseIfHeld _ projectId), .ok ()⟩ => some (.reclaim projectId)
  | ⟨_, _, .call (.publish report), _⟩ =>
      if report.status = .pausing then some (.reclaim report.projectId) else none
  | _ => none

end Taken

/-- The steps that a duty leaves to do. -/
def Duty.pursues : Duty → Step → Bool
  | .setUp _ projectId, .usePool (.withdraw leaver) => leaver == projectId
  | .setUp _ projectId, .call (.publish report) =>
      report.status == .provisioning && report.projectId == projectId
  | .setUp slot projectId, .call (.assign place assignment) =>
      place == slot && assignment.projectId == projectId
  | .reclaim projectId, .usePool (.holder owner) => owner == projectId
  | .reclaim _, .usePool (.mark _ status) => status == .paused
  | .reclaim projectId, .call (.publish report) =>
      report.status == .pausing && report.projectId == projectId
  | .reclaim projectId, .call (.release _ owner) => owner == projectId
  | _, _ => false

/-- A step ends a duty: it frees the project, comes after the slot was set up, or finds that nobody
holds a slot for the project. -/
def Duty.EndsWith (since : List Taken) (closing : Taken) : Duty → Prop
  | .setUp slot projectId => closing.step = .usePool (.free projectId) ∨
      ∃ front assigning assignment, since = front ++ [assigning] ∧
        assigning.setUp? = some (slot, assignment) ∧ assignment.projectId = projectId
  | .reclaim projectId => closing.step = .usePool (.free projectId) ∨ closing.Misses projectId

def Underway (duty : Duty) (later : List Taken) : Prop :=
  ∀ own ∈ later, duty.pursues own.step = true

def Performed (duty : Duty) (later : List Taken) : Prop :=
  ∃ since closing rest, later = since ++ closing :: rest ∧ Underway duty since ∧
    duty.EndsWith since closing

/-- The project was found in a slot, and activity was noted there. -/
def Sighted (earlier : List Taken) (report : Report) : Prop :=
  ∃ front finding touching slot, earlier = front ++ [finding, touching] ∧
    finding.sighted? = some (slot, report.projectId) ∧ touching.step = .usePool (.touch slot) ∧
    report.message = runningMessage slot

/-- What comes before a report that a project runs: a slot was set up or the project sighted. -/
def Vouched (earlier : List Taken) (report : Report) : Prop :=
  (∃ front before place, earlier = front ++ [before] ∧ before.setUp? = some place) ∨
    Sighted earlier report

/-- Every duty was done but the pending one, and nothing else was done since that one came about. -/
structure Diligent (pending : Option Duty) (steps : List Taken) : Prop where
  dutiful : ∀ front incurring back duty, steps = front ++ incurring :: back →
    incurring.incurs? = some duty →
    Performed duty back ∨ (pending = some duty ∧ Underway duty back)
  vouched : ∀ front telling back report, steps = front ++ telling :: back →
    telling.step = .call (.publish report) → report.status = .running → Vouched front report

/-- What is left of diligence while an operation is on its way: every duty was done or is being
done. -/
structure Accountable (steps : List Taken) : Prop where
  dutiful : ∀ front incurring back duty, steps = front ++ incurring :: back →
    incurring.incurs? = some duty → Performed duty back ∨ Underway duty back
  vouched : ∀ front telling back report, steps = front ++ telling :: back →
    telling.step = .call (.publish report) → report.status = .running → Vouched front report

def Trail.taken (trail : Trail) : List Taken := trail.strides.map (·.toTaken)

variable {trail : Trail} {others : List Use} {now : Millis} {steps front back later : List Taken}
  {new : Taken} {pending : Option Duty} {duty : Duty} {slot : SlotId}
  {projectId sessionId brokerUrl : String} {report : Report}

@[simp] theorem taken_after (step : Step) (answer : step.Answer) :
    (trail.after others now step answer).taken =
      trail.taken ++ [⟨trail.pool.run others, now, step, answer⟩] := by
  simp [Trail.taken, Trail.after, Trail.stride]

theorem Performed.of_append {more : List Taken} (performed : Performed duty (later ++ more)) :
    Performed duty later ∨ Underway duty later := by
  obtain ⟨since, closing, rest, split, underway, ends⟩ := performed
  rcases List.append_eq_append_iff.mp split with ⟨between, rfl, -⟩ | ⟨between, rfl, tail⟩
  · exact .inr fun own member => underway own (List.mem_append_left _ member)
  · cases between with
    | nil => exact .inr (by simpa using underway)
    | cons first between =>
        obtain ⟨rfl, -⟩ := List.cons.inj tail
        exact .inl ⟨since, closing, between, rfl, underway, ends⟩

theorem Performed.append (performed : Performed duty later) (more : List Taken) :
    Performed duty (later ++ more) := by
  obtain ⟨since, closing, rest, rfl, underway, ends⟩ := performed
  exact ⟨since, closing, rest ++ more, by simp, underway, ends⟩

theorem Underway.append (underway : Underway duty later) (pursues : duty.pursues new.step = true) :
    Underway duty (later ++ [new]) := by
  exact List.forall_mem_append.mpr ⟨underway, List.forall_mem_singleton.mpr pursues⟩

theorem Underway.perform (underway : Underway duty later) (ends : duty.EndsWith later new) :
    Performed duty (later ++ [new]) :=
  ⟨later, new, [], rfl, underway, ends⟩

/-- A further step, which goes on with the pending duty, ends it or brings one about. -/
theorem Diligent.append {after : Option Duty} (diligent : Diligent pending steps)
    (goesOn : ∀ front incurring back duty, steps = front ++ incurring :: back →
      incurring.incurs? = some duty → pending = some duty →
      duty.EndsWith back new ∨ (after = some duty ∧ duty.pursues new.step = true))
    (incurred : ∀ duty, new.incurs? = some duty → after = some duty)
    (vouched : ∀ report, new.step = .call (.publish report) → report.status = .running →
      Vouched steps report) :
    Diligent after (steps ++ [new]) := by
  constructor
  · intro front incurring back duty split incurs
    -- The duty was brought about by the new step or before it.
    rcases split_of_append split with ⟨rfl, rfl⟩ | ⟨rest, earlier⟩
    · obtain rfl : back = [] := by simpa using split
      exact .inr ⟨incurred duty incurs, by simp [Underway]⟩
    · obtain rfl : rest ++ [new] = back := by simpa [earlier] using split
      rcases diligent.dutiful front incurring rest duty earlier incurs with
        performed | ⟨mine, underway⟩
      · exact .inl (performed.append _)
      · rcases goesOn front incurring rest duty earlier incurs mine with ends | ⟨still, pursues⟩
        · exact .inl (underway.perform ends)
        · exact .inr ⟨still, underway.append pursues⟩
  · intro front telling back report split published running
    rcases split_of_append split with ⟨rfl, rfl⟩ | ⟨rest, earlier⟩
    · exact vouched report published running
    · exact diligent.vouched front telling rest report earlier published running

/-- A step that brings about nothing and says of nobody to run. -/
def Taken.IsIdle (taken : Taken) : Prop :=
  taken.incurs? = none ∧
    ∀ report, taken.step = .call (.publish report) → report.status ≠ .running

theorem Diligent.follow (diligent : Diligent pending steps) (idle : new.IsIdle)
    (pursues : ∀ duty, pending = some duty → duty.pursues new.step = true) :
    Diligent pending (steps ++ [new]) := by
  refine diligent.append ?_ (by simp [idle.1]) ?_
  · exact fun _ _ _ duty _ _ mine => .inr ⟨mine, pursues duty mine⟩
  · exact fun report published running => absurd running (idle.2 report published)

theorem Diligent.finish (diligent : Diligent pending steps) (idle : new.IsIdle)
    (ends : ∀ duty, pending = some duty → ∀ since, duty.EndsWith since new) :
    Diligent none (steps ++ [new]) := by
  refine diligent.append ?_ (by simp [idle.1]) ?_
  · exact fun _ _ back duty _ _ mine => .inl (ends duty mine back)
  · exact fun report published running => absurd running (idle.2 report published)

theorem Diligent.incur (diligent : Diligent pending steps) (incurs : new.incurs? = some duty)
    (same : ∀ other, pending = some other → other = duty ∧ other.pursues new.step = true)
    (unsaid : ∀ report, new.step = .call (.publish report) → report.status ≠ .running) :
    Diligent (some duty) (steps ++ [new]) := by
  refine diligent.append ?_ ?_ ?_
  · intro _ _ _ other _ _ mine
    obtain ⟨rfl, pursues⟩ := same other mine
    exact .inr ⟨rfl, pursues⟩
  · intro other incurred
    exact incurs.symm.trans incurred
  · exact fun report published running => absurd running (unsaid report published)

theorem sighted_of_touch {finding touching : Taken} (last : steps = front ++ [finding])
    (sighted : finding.sighted? = some (slot, report.projectId))
    (touches : touching.step = .usePool (.touch slot))
    (message : report.message = runningMessage slot) : Sighted (steps ++ [touching]) report :=
  ⟨front, finding, touching, slot, by simp [last], sighted, touches, message⟩

theorem incurs?_of_setUp {place : SlotId × Assignment} {taken : Taken}
    (setUp : taken.setUp? = some place) : taken.incurs? = none := by
  obtain ⟨pool, now, step, answer⟩ := taken
  cases step with
  | readClock => rfl
  | usePool op => contradiction
  | call call =>
      cases call with
      | publish report => contradiction
      | _ => rfl

theorem Diligent.setUp (diligent : Diligent (some (.setUp slot projectId)) steps)
    {assignment : Assignment} {before : Taken} (last : steps = front ++ [before])
    (set : before.setUp? = some (slot, assignment)) (own : assignment.projectId = projectId)
    (incurs : new.incurs? = none) : Diligent none (steps ++ [new]) := by
  refine diligent.append ?_ (by simp [incurs]) ?_
  · intro earlier incurring back duty split incurred mine
    obtain rfl := Option.some.inj mine
    refine .inl (.inr ?_)
    rw [last] at split
    -- The assignment itself brought about no duty, so it came after the step that did.
    rcases split_of_append split with ⟨-, rfl⟩ | ⟨since, rfl⟩
    · rw [incurs?_of_setUp set] at incurred
      contradiction
    · obtain rfl : since ++ [before] = back := by simpa using split
      exact ⟨since, before, assignment, rfl, set, own⟩
  · exact fun _ _ _ => .inl ⟨front, before, _, last, set⟩

theorem diligent_nil : Diligent none [] := by
  constructor
  · intro front incurring back duty split
    simp at split
  · intro front telling back report split
    simp at split

theorem Diligent.accountable (diligent : Diligent pending steps) : Accountable steps := by
  refine ⟨?_, diligent.vouched⟩
  intro front incurring back duty split incurred
  cases diligent.dutiful front incurring back duty split incurred with
  | inl performed => exact .inl performed
  | inr mine => exact .inr mine.2

theorem Accountable.of_append (accountable : Accountable (steps ++ later)) :
    Accountable steps := by
  constructor
  · intro front incurring back duty split incurred
    have longer : steps ++ later = front ++ incurring :: (back ++ later) := by simp [split]
    cases accountable.dutiful front incurring (back ++ later) duty longer incurred with
    | inl performed => exact performed.of_append
    | inr underway => exact .inr fun own member => underway own (List.mem_append_left _ member)
  · intro front telling back report split
    exact accountable.vouched front telling (back ++ later) report (by simp [split])

theorem Withstands.accountable {α : Type} {doing : Steps α}
    (withstands : Withstands (fun _ after => Diligent none after.taken) doing trail) :
    Accountable trail.taken := by
  induction doing generalizing trail with
  | done result => exact withstands.accountable
  | ask step next ih =>
      have longer := ih _ (withstands [] 0 ((Company.interfering 0 []).answer 0))
      rw [taken_after] at longer
      exact longer.of_append

/-! ### Steps of an operation -/

/-- Steps that bring about nothing, whatever they are answered, and say of nobody to run. -/
def Step.isIdle : Step → Bool
  | .usePool (.claim _ _ _) | .usePool .claimNext | .usePool (.pauseIfHeld _ _) => false
  | .call (.publish report) => report.status != .pausing && report.status != .running
  | _ => true

theorem isIdle_taken {pool : Pool} {step : Step} {answer : step.Answer}
    (idle : step.isIdle = true) : Taken.IsIdle ⟨pool, now, step, answer⟩ := by
  cases step with
  | readClock => exact ⟨rfl, by simp⟩
  | usePool op =>
      cases op with
      | claim | claimNext | pauseIfHeld => contradiction
      | _ => exact ⟨rfl, by simp⟩
  | call call =>
      cases call with
      | publish report =>
          simp only [Step.isIdle, Bool.and_eq_true, bne_iff_ne, ne_eq] at idle
          refine ⟨by simp [Taken.incurs?, idle.1], ?_⟩
          rintro _ ⟨⟩
          exact idle.2
      | _ => exact ⟨rfl, by simp⟩

section Steps

variable {step : Step} {answer : step.Answer}

theorem Diligent.goOn (diligent : Diligent pending trail.taken) (idle : step.isIdle = true)
    (pursues : ∀ duty, pending = some duty → duty.pursues step = true) :
    Diligent pending (trail.after others now step answer).taken := by
  rw [taken_after]
  exact diligent.follow (isIdle_taken idle) pursues

theorem Diligent.idle (diligent : Diligent none trail.taken) (idle : step.isIdle = true) :
    Diligent none (trail.after others now step answer).taken :=
  diligent.goOn idle (by simp)

theorem Diligent.free {reply : (PoolOp.free projectId).Reply}
    (diligent : Diligent pending trail.taken)
    (owed : ∀ duty, pending = some duty →
      duty = .reclaim projectId ∨ ∃ slot, duty = .setUp slot projectId) :
    Diligent none (trail.after others now (.usePool (.free projectId)) reply).taken := by
  rw [taken_after]
  refine diligent.finish (isIdle_taken rfl) fun duty mine since => ?_
  rcases owed duty mine with rfl | ⟨slot, rfl⟩
  · exact .inl rfl
  · exact .inl rfl

theorem Confined.diligent {α : Type} {doing : Steps α} (confined : Confined Step.isIdle doing)
    (diligent : Diligent none trail.taken) :
    Withstands (fun _ after => Diligent none after.taken) doing trail :=
  confined.withstands (fun _ _ _ _ _ idle diligent => diligent.idle idle) diligent

end Steps

/-! ### Procedures -/

theorem notify_idle (quiet : report.status ≠ .pausing ∧ report.status ≠ .running) :
    Confined Step.isIdle (notify report) :=
  .bind (.step (by simpa [Step.isIdle] using quiet)) fun _ => .pure ()

theorem provision_diligent {request : Request}
    (diligent : Diligent (some (.setUp slot request.projectId)) trail.taken) :
    Withstands (fun _ after => Diligent none after.taken) (provision brokerUrl slot request)
      trail := by
  unfold provision
  refine .call fun others now answer => .call fun rivals later outcome => ?_
  have assigned : Diligent (some (.setUp slot request.projectId)) ((trail.after others now (.call
      (.publish (reportOn request .provisioning (provisioningMessage slot)))) answer).after rivals
        later (.call (.assign slot (.ofRequest request brokerUrl))) outcome).taken :=
    (diligent.goOn (by simp [Step.isIdle, reportOn]) (by simp [Duty.pursues, reportOn])).goOn rfl
      (by simp [Duty.pursues, Assignment.ofRequest])
  cases outcome with
  | error reason =>
      exact .use fun last latest => .pure (assigned.free (by simp))
  | ok done =>
      refine .call fun last latest answer => .pure ?_
      rw [taken_after]
      refine assigned.setUp (taken_after _ _) rfl rfl ?_
      simp [Taken.incurs?, reportOn]

theorem serveNext_diligent (diligent : Diligent none trail.taken) :
    Withstands (fun _ after => Diligent none after.taken) (serveNext brokerUrl) trail := by
  unfold serveNext
  refine .use fun others now => ?_
  split
  · next nobody =>
    rw [nobody]
    refine .pure ?_
    rw [taken_after]
    exact diligent.follow ⟨rfl, by simp⟩ (by simp)
  · next slot request served =>
    rw [served]
    refine (provision_diligent ?_).seq ?_
    · rw [taken_after]
      exact diligent.incur rfl (by simp) (by simp)
    · intro result after provisioned
      cases result with
      | ok done => exact .pure provisioned
      | error reason =>
          exact (Confined.bind (notify_idle (by simp [reportOn])) fun _ => .pure _).diligent
            provisioned

theorem serveAfter_diligent (diligent : Diligent none trail.taken) (freed : Option SlotId) :
    Withstands (fun _ after => Diligent none after.taken) (serveAfter brokerUrl freed) trail := by
  cases freed with
  | none => exact .pure diligent
  | some slot => exact serveNext_diligent diligent

theorem tearDown_diligent (diligent : Diligent pending trail.taken)
    (owed : ∀ duty, pending = some duty → duty = .reclaim projectId) :
    Withstands (fun _ after => Diligent none after.taken) (tearDown projectId) trail := by
  unfold tearDown
  refine .use fun others now => ?_
  split
  · next missed =>
    rw [missed]
    refine .pure ?_
    rw [taken_after]
    refine diligent.finish (isIdle_taken rfl) fun duty mine since => ?_
    rw [owed duty mine]
    exact .inr ⟨_, now, rfl⟩
  · next row found =>
    refine .call fun between clearedAt cleared => .use fun rest later => ?_
    have released : Diligent pending ((trail.after others now (.usePool (.holder projectId))
        ((trail.pool.run others).perform now (.holder projectId)).1).after between clearedAt
          (.call (.release row.id projectId)) cleared).taken :=
      (diligent.goOn rfl fun duty mine => by simp [owed duty mine, Duty.pursues]).goOn rfl
        fun duty mine => by simp [owed duty mine, Duty.pursues]
    split
    · exact .pure (released.free fun duty mine => .inl (owed duty mine))
    · exact .pure (released.free fun duty mine => .inl (owed duty mine))

theorem confirmRunning_diligent {payload : Payload} {finding : Taken}
    (diligent : Diligent none trail.taken) (last : trail.taken = front ++ [finding])
    (sighted : finding.sighted? = some (slot, payload.projectId)) :
    Withstands (fun _ after => Diligent none after.taken) (confirmRunning slot payload) trail := by
  unfold confirmRunning
  refine .use fun others now => .call fun rest later answer => .pure ?_
  have touched : Diligent none (trail.after others now (.usePool (.touch slot))
      ((trail.pool.run others).perform now (.touch slot)).1).taken := diligent.idle rfl
  rw [taken_after]
  refine touched.append (by simp) (by simp [Taken.incurs?, reportTo]) ?_
  intro report published running
  obtain rfl := Call.publish.inj (Step.call.inj published)
  rw [taken_after]
  exact .inr (sighted_of_touch last sighted rfl rfl)

theorem fillToken_idle (request : Request) : Confined Step.isIdle (fillToken request) := by
  unfold fillToken
  split
  · refine .bind (.step rfl) fun answer => ?_
    cases answer with
    | ok githubToken => exact .pure _
    | error reason => exact .pure _
  · exact .pure _

theorem enqueue_idle (request : Request) : Confined Step.isIdle (enqueue request) := by
  refine .bind (.step rfl) fun reply => ?_
  cases reply with
  | ok position => exact .bind (notify_idle (by simp [reportOn])) fun _ => .pure _
  | error reason =>
      cases reason with
      | queueFull capacity => exact .bind (notify_idle (by simp [reportOn])) fun _ => .pure _
      | _ => exact .pure _

/-- What is owed once a project was placed. -/
def Placed (projectId : String) (steps : List Taken) : Except PoolError Placement → Prop
  | .ok (.claimed slot) => Diligent (some (.setUp slot projectId)) steps
  | .ok (.held slot) => Diligent none steps ∧ ∃ front finding, steps = front ++ [finding] ∧
      finding.sighted? = some (slot, projectId)
  | .error _ => Diligent none steps

theorem place_diligent (diligent : Diligent none trail.taken) (attempts : Nat) :
    Withstands (fun result after => Placed projectId after.taken result)
      (place projectId sessionId attempts) trail := by
  induction attempts generalizing trail with
  | zero => exact .pure diligent
  | succ attempts ih =>
      unfold place
      refine .use fun others now => ?_
      have looked (reply : (PoolOp.findFree).Reply) :
          Diligent none (trail.after others now (.usePool .findFree) reply).taken :=
        diligent.idle rfl
      split
      · exact .pure (looked _)
      · next slot found =>
        refine .use fun rivals later => ?_
        have refused (reason : PoolError) : Diligent none ((trail.after others now
            (.usePool .findFree) ((trail.pool.run others).perform now .findFree).1).after rivals
            later (.usePool (.claim slot projectId sessionId)) (.error reason)).taken := by
          rw [taken_after]
          exact (looked _).follow ⟨rfl, by simp⟩ (by simp)
        split
        · next claimed =>
          rw [claimed]
          refine .pure ?_
          change Diligent _ _
          rw [taken_after]
          exact (looked _).incur rfl (by simp) (by simp)
        · next other holder held =>
          rw [held]
          exact .pure ⟨refused _, _, _, taken_after _ _, rfl⟩
        · next absence lost =>
          rw [lost]
          exact ih (refused _)
        · next reason _ _ failed =>
          rw [failed]
          exact .pure (refused reason)

theorem create_diligent {payload : Payload} (diligent : Diligent none trail.taken) :
    Withstands (fun _ after => Diligent none after.taken) (create brokerUrl payload) trail := by
  unfold create
  split
  · exact .pure diligent
  refine .use fun others now => ?_
  split
  · next row found =>
    rw [found]
    exact .map (confirmRunning_diligent (diligent.idle rfl) (taken_after _ _) rfl)
  refine .look fun others now => ?_
  refine (((fillToken_idle _).diligent ((diligent.idle rfl).idle rfl)).and
    (fillToken_keeps _)).seq ?_
  intro request filled keeps
  obtain ⟨diligent, -, project, -⟩ := keeps
  replace project : request.projectId = payload.projectId := project
  refine (place_diligent diligent placementAttempts).seq ?_
  intro result after placed
  cases result with
  | ok placement =>
      cases placement with
      | held slot =>
          obtain ⟨diligent, front, finding, last, sighted⟩ := placed
          exact .map (confirmRunning_diligent diligent last sighted)
      | claimed slot =>
          refine .use fun others now => ?_
          refine (provision_diligent ?_).seq ?_
          · rw [project]
            exact Diligent.goOn placed rfl (by simp [Duty.pursues])
          · intro outcome after provisioned
            cases outcome with
            | ok done => exact .pure provisioned
            | error reason => exact .pure provisioned
  | error reason =>
      cases reason with
      | noSlotsAvailable => exact (enqueue_idle request).diligent placed
      | _ => exact .pure placed

theorem serve_and_report_diligent (diligent : Diligent none trail.taken) (freed : Option SlotId)
    (quiet : report.status ≠ .pausing ∧ report.status ≠ .running)
    (conclude : Served → Consequence) :
    Withstands (fun _ after => Diligent none after.taken)
      (serveAndReport brokerUrl freed report conclude) trail :=
  (serveAfter_diligent diligent freed).seq fun _ _ served =>
    (Confined.bind (notify_idle quiet) fun _ => .pure _).diligent served

theorem release_diligent {payload : Payload} (diligent : Diligent none trail.taken) :
    Withstands (fun _ after => Diligent none after.taken) (release brokerUrl payload) trail := by
  unfold release
  refine (tearDown_diligent diligent (by simp)).seq ?_
  intro slot after torn
  cases slot with
  | none =>
      refine .use fun others now => ?_
      exact serve_and_report_diligent (torn.idle rfl) none (by simp [reportTo]) _
  | some slot => exact serve_and_report_diligent torn (some slot) (by simp [reportTo]) _

theorem pause_diligent {payload : Payload} (diligent : Diligent none trail.taken) :
    Withstands (fun _ after => Diligent none after.taken) (pause brokerUrl payload) trail := by
  unfold pause
  refine .use fun others now => ?_
  split
  · refine Confined.diligent ?_ (diligent.idle rfl)
    exact .bind (notify_idle (by simp [reportTo])) fun _ => .pure _
  · next row found =>
    refine .call fun rest later answer => .use fun last latest => ?_
    refine Withstands.seq (tearDown_diligent
      (?_ : Diligent (some (.reclaim payload.projectId)) _) (by simp)) ?_
    · refine Diligent.goOn ?_ rfl (by simp [Duty.pursues])
      rw [taken_after]
      exact (diligent.idle rfl).incur (by simp [Taken.incurs?, reportTo]) (by simp)
        (by simp [reportTo])
    · intro freed after torn
      exact serve_and_report_diligent torn freed (by simp [reportTo]) _

theorem noteActivity_idle : Confined Step.isIdle (noteActivity projectId) := by
  refine .bind (.step rfl) fun holder => ?_
  cases holder with
  | none => exact .pure _
  | some slot => exact .bind (.step rfl) fun _ => .pure _

theorem pauseIdle_diligent (diligent : Diligent none trail.taken) (seen : Slot) :
    Withstands (fun _ after => Diligent none after.taken) (pauseIdle seen) trail := by
  unfold pauseIdle
  refine .look fun others now => .use fun before pausedAt => ?_
  have looked : Diligent none (trail.after others now .readClock now).taken := diligent.idle rfl
  split
  · next reason refused =>
    rw [refused]
    refine .pure ?_
    rw [taken_after]
    exact looked.follow ⟨rfl, by simp⟩ (by simp)
  · next granted =>
    rw [granted]
    refine .call fun between toldAt published => .call fun since clearedAt cleared => ?_
    refine .use fun later freedAt => .call fun last latest answer => .pure ?_
    refine Diligent.idle ?_ (by simp [Step.isIdle, reportOf])
    refine Diligent.free (?_ : Diligent (some (.reclaim seen.projectId)) _) (by simp)
    refine Diligent.goOn ?_ rfl (by simp [Duty.pursues])
    rw [taken_after]
    have paused : Diligent (some (.reclaim seen.projectId)) ((trail.after others now .readClock
        now).after before pausedAt (.usePool (.pauseIfHeld seen.id seen.projectId))
          (.ok ())).taken := by
      rw [taken_after]
      exact looked.incur rfl (by simp) (by simp)
    refine paused.incur (by simp [Taken.incurs?, reportOf]) (by simp [Duty.pursues, reportOf])
      (by simp [reportOf])

theorem pauseEach_diligent (diligent : Diligent none trail.taken) (seen : List Slot) :
    Withstands (fun _ after => Diligent none after.taken) (pauseEach seen) trail := by
  induction seen generalizing trail with
  | nil => exact .pure diligent
  | cons first rest ih =>
      refine (pauseIdle_diligent diligent first).seq fun freed paused diligent => ?_
      exact (ih diligent).seq fun others after diligent => .pure diligent

/-- Whatever an operation is answered, its duties are done when it ends. -/
theorem operation_diligent (diligent : Diligent none trail.taken) (operation : Operation) :
    Withstands (fun _ after => Diligent none after.taken) (operation.steps brokerUrl) trail := by
  cases operation with
  | handle event =>
      refine Withstands.bind ?_
      unfold handle
      split
      · exact create_diligent diligent
      · exact .map (release_diligent diligent)
      · exact .map (pause_diligent diligent)
      · exact .pure diligent
  | pauseIdle idleTimeout =>
      refine .use fun others now => ?_
      exact (pauseEach_diligent (diligent.idle rfl) _).seq fun _ _ ends => .pure ends
  | serve => exact (serveNext_diligent diligent).seq fun _ _ ends => .pure ends
  | noteActivity projectId =>
      exact (Confined.bind noteActivity_idle fun _ => .pure _).diligent diligent

/-! ### Workers on a floor -/

/-- Every worker will end its operation with its duties done. -/
def Floor.Reliable (floor : Floor) : Prop :=
  ∀ worker, ∃ trail pending, floor.Traces worker trail pending ∧
    Withstands (fun _ after => Diligent none after.taken) (floor.workers worker) trail

section Floors

variable {floor : Floor} {worker : Nat}

theorem Floor.Reliable.start (reliable : floor.Reliable) (idle : floor.workers worker = .done ())
    (operation : Operation) : Floor.Reliable { floor with
      workers := Function.update floor.workers worker (operation.steps brokerUrl) } := by
  intro other
  obtain ⟨trail, pending, traces, withstands⟩ := reliable other
  refine ⟨trail, pending, traces.start idle operation, ?_⟩
  by_cases same : other = worker
  · subst same
    rw [idle] at withstands
    simp only [Function.update_self]
    exact operation_diligent withstands operation
  · simpa only [Function.update_of_ne same] using withstands

theorem Floor.Reliable.advance (reliable : floor.Reliable) {step : Step}
    {next : step.Answer → Steps Unit} (busy : floor.workers worker = .ask step next)
    (answers : (call : Call) → call.Answer) :
    (floor.advance worker now step (step.respond floor.pool now answers)
      (next (step.respond floor.pool now answers))).Reliable := by
  intro other
  obtain ⟨trail, pending, traces, withstands⟩ := reliable other
  by_cases same : worker = other
  · subst same
    refine ⟨_, _, traces.own busy rfl, ?_⟩
    rw [busy] at withstands
    rw [workers_advance, ← traces.pool]
    exact withstands pending now answers
  · obtain ⟨latest, grown⟩ := traces.others same
    refine ⟨trail, _, grown, ?_⟩
    rwa [workers_advance_of_ne same]

theorem Floor.Reliable.run (reliable : floor.Reliable) (turns : List Turn) :
    (floor.run brokerUrl turns).Reliable := by
  apply Floor.run_keeps Floor.Reliable _ _ turns reliable
  · exact fun floor worker operation reliable idle => reliable.start idle operation
  · exact fun floor worker now answers step next reliable busy => reliable.advance busy answers

theorem fresh_reliable (slotCount : UInt32) (capacity : Nat) (start : Millis) :
    (Floor.fresh slotCount capacity start).Reliable :=
  fun _ => ⟨.start _, [], ⟨rfl, rfl, allFounded_nil⟩, diligent_nil⟩

/-- Of a worker's steps, up to any point of the log, the duties are done or being done. -/
theorem Floor.Reliable.accountable (reliable : floor.Reliable) (worker : Nat)
    {earlier later : List Entry} (split : floor.log = earlier ++ later) :
    Accountable (stepsOf worker earlier) := by
  obtain ⟨trail, pending, traces, withstands⟩ := reliable worker
  have whole : trail.taken = stepsOf worker earlier ++ stepsOf worker later := by
    rw [← stepsOf_append, ← split]
    exact traces.steps
  have accountable := withstands.accountable
  rw [whole] at accountable
  exact accountable.of_append

end Floors

end Workflow

end WorkspacePool
