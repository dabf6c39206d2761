import WorkspacePool.Proofs.Workflow.Draining
import WorkspacePool.Proofs.Workflow.Founding
import WorkspacePool.Proofs.Workflow.GivingUp

/-!
The two routes from a create to the provisioner. A create either claims a slot and has it set up
itself, or lets a request wait, which some other operation draws from the queue later. The request
is made up, token included, before the routes part, it stays as it is for as long as its project
waits, and it is all that whoever draws it has to go by. So both routes come to one assignment.
-/

namespace WorkspacePool

namespace Pool

variable {pool after : Pool} {now : Millis} {op : PoolOp} {reply : op.Reply} {request : Request}
  {projectId : String} {slot : SlotId}

/-- The project waits throughout a history, before the first use and after the last one too. -/
def KeepsWaiting (pool : Pool) (projectId : String) (history : List Use) : Prop :=
  ∀ earlier later, history = earlier ++ later → (pool.run earlier).Waits projectId

theorem Sound.same_request (sound : pool.Sound) {other : Request} (member : request ∈ pool.waiting)
    (otherMember : other ∈ pool.waiting) (same : other.projectId = request.projectId) :
    other = request :=
  List.inj_on_of_nodup_map sound.distinct otherMember member same

theorem Shrinks.sublist {front discarded back : List Request}
    (shrinks : Shrinks pool op reply after front discarded back) :
    after.waiting.Sublist pool.waiting := by
  rw [shrinks.kept, shrinks.split]
  exact (List.sublist_append_left front _).append (List.Sublist.refl back)

theorem Effect.request_kept (effect : Effect pool now op reply after) (sound : pool.Sound)
    (member : request ∈ pool.waiting) (still : after.Waits request.projectId) :
    request ∈ after.waiting := by
  rcases effect.queue with ⟨new, -, grown⟩ | ⟨front, discarded, back, shrinks⟩
  · rw [grown]
    exact List.mem_append_left _ member
  · obtain ⟨other, there, same⟩ := still
    rwa [← sound.same_request member (shrinks.sublist.subset there) same]

theorem run_request_kept (sound : pool.Sound) (member : request ∈ pool.waiting)
    (history : List Use) (waits : pool.KeepsWaiting request.projectId history) :
    request ∈ (pool.run history).waiting := by
  induction history generalizing pool with
  | nil => exact member
  | cons use later ih =>
      have still := (perform_effect sound use.now use.op).request_kept sound member
        (waits [use] later rfl)
      exact ih (sound.next use) still fun front back split => waits (use :: front) back (by
        rw [split]
        rfl)

/-- Whoever waits all of a sudden was let wait with a request of its own. -/
theorem Effect.entered_request (effect : Effect pool now op reply after)
    (absent : ¬ pool.Waits projectId) (waits : after.Waits projectId) :
    ∃ request, op = .enqueue request ∧ request.projectId = projectId ∧
      request ∈ after.waiting := by
  obtain ⟨request, member, own⟩ := waits
  rcases effect.queue with ⟨new, entered, grown⟩ | ⟨front, discarded, back, shrinks⟩
  · rw [grown, List.mem_append, List.mem_singleton] at member
    rcases member with before | rfl
    · exact absurd ⟨request, before, own⟩ absent
    · exact ⟨request, entered, own, by simp [grown]⟩
  · exact absurd ⟨request, shrinks.sublist.subset member, own⟩ absent

theorem Effect.served_request (effect : Effect pool now .claimNext (some (slot, request)) after)
    (sound : pool.Sound) : request ∈ pool.waiting ∧
      after.tenant? slot = some (request.projectId, request.sessionId) := by
  cases effect with
  | unchanged _ _ quiet => exact quiet.elim
  | adjusted _ _ quiet => exact quiet.elim
  | served discarded request rest row slots queue held unheld first free replaced =>
      refine ⟨by simp [queue], ?_⟩
      change tenant? { pool with slots } row.id = _
      rw [tenant?_replace sound replaced rfl, Function.update_self, Slot.tenant?_occupy]

theorem Effect.claimed_tenant {sessionId : String}
    (effect : Effect pool now (.claim slot projectId sessionId) (.ok ()) after)
    (sound : pool.Sound) : after.tenant? slot = some (projectId, sessionId) := by
  cases effect with
  | unchanged _ _ quiet => exact quiet.elim
  | adjusted _ _ quiet => exact quiet.elim
  | claimed row projectId sessionId slots free named unheld replaced =>
      rw [tenant?_replace sound replaced rfl, Function.update_self, Slot.tenant?_occupy]

end Pool

/-- What a payload asks the provisioner to set up, with the token that it goes by. -/
def Payload.assignment (payload : Payload) (token brokerUrl : String) : Assignment :=
  { projectId := payload.projectId
    sessionId := payload.sessionId
    gitRepoUrl := payload.gitRepoUrl
    githubToken := token
    brokerUrl
    targetBranch := if Text.trim payload.targetBranch = "" then "main" else payload.targetBranch }

/-- The token that a payload goes by, after these lookups of tokens and their answers: its own, or
if it has none and names a user, the one that the only lookup found, or none if that failed. -/
def Payload.GoesBy (payload : Payload) (lookups : List (String × Except TokenError String))
    (token : String) : Prop :=
  if payload.githubToken = "" ∧ payload.userId ≠ "" then
    ∃ answer, lookups = [(payload.userId, answer)] ∧ token = answer.toOption.getD ""
  else lookups = [] ∧ token = payload.githubToken

def Request.MadeOf (request : Request) (payload : Payload) : Prop :=
  ∃ now, request = { Request.ofPayload payload now with githubToken := request.githubToken }

theorem Request.MadeOf.assignment {request : Request} {payload : Payload}
    (made : request.MadeOf payload) (brokerUrl : String) :
    Assignment.ofRequest request brokerUrl =
      payload.assignment request.githubToken brokerUrl := by
  obtain ⟨now, same⟩ := made
  rw [same]
  by_cases blank : Text.isBlankText payload.targetBranch = true <;>
    simp [Assignment.ofRequest, Payload.assignment, Request.ofPayload, Assignment.branchOf,
      Assignment.defaultBranch, Text.trim_eq_empty_iff, blank]

theorem Request.MadeOf.projectId {request : Request} {payload : Payload}
    (made : request.MadeOf payload) : request.projectId = payload.projectId := by
  obtain ⟨now, same⟩ := made
  rw [same]
  rfl

theorem Request.MadeOf.sessionId {request : Request} {payload : Payload}
    (made : request.MadeOf payload) : request.sessionId = payload.sessionId := by
  obtain ⟨now, same⟩ := made
  rw [same]
  rfl

theorem Payload.assignment_not_blank {payload : Payload} (named : payload.projectId ≠ "")
    (token brokerUrl : String) : (payload.assignment token brokerUrl).isBlank = false := by
  simp [Assignment.isBlank, Assignment.blank, Payload.assignment, named]

namespace Workflow

variable {trail : Trail} {front back strides earlier : List Stride} {stride : Stride}
  {payload : Payload} {request : Request} {slot : SlotId} {projectId sessionId brokerUrl : String}

/-! ### What the steps before an assignment were -/

namespace Taken

def lookup? : Taken → Option (String × Except TokenError String)
  | ⟨_, _, .call (.lookUpToken userId), answer⟩ => some (userId, answer)
  | _ => none

def Claims (taken : Taken) (slot : SlotId) (projectId sessionId : String) : Prop :=
  ∃ pool now, taken = ⟨pool, now, .usePool (.claim slot projectId sessionId), .ok ()⟩

/-- The step drew the request from the queue and claimed the slot for it. -/
def Draws (taken : Taken) (slot : SlotId) (request : Request) : Prop :=
  ∃ pool now, taken = ⟨pool, now, .usePool .claimNext, some (slot, request)⟩

variable {taken : Taken}

theorem IsTold.effect {pool : Pool} {now : Millis} {op : PoolOp} {reply : op.Reply}
    (told : IsTold ⟨pool, now, .usePool op, reply⟩) (sound : pool.Sound) :
    pool.Effect now op reply (pool.perform now op).2 := by
  cases told
  exact Pool.perform_effect sound now op

theorem IsTold.tenant_of_claims (told : taken.IsTold) (sound : taken.pool.Sound)
    (claims : taken.Claims slot projectId sessionId) :
    taken.left.tenant? slot = some (projectId, sessionId) := by
  obtain ⟨pool, now, rfl⟩ := claims
  exact (told.effect sound).claimed_tenant sound

theorem IsTold.drawn (told : taken.IsTold) (sound : taken.pool.Sound)
    (draws : taken.Draws slot request) : request ∈ taken.pool.waiting ∧
      taken.left.tenant? slot = some (request.projectId, request.sessionId) := by
  obtain ⟨pool, now, rfl⟩ := draws
  exact (told.effect sound).served_request sound

theorem IsTold.entered (told : taken.IsTold) (sound : taken.pool.Sound)
    (absent : ¬ taken.pool.Waits projectId) (waits : taken.left.Waits projectId) :
    ∃ request, taken.step = .usePool (.enqueue request) ∧ request.projectId = projectId ∧
      request ∈ taken.left.waiting := by
  cases told with
  | look pool now => exact absurd waits absent
  | call pool now call answer => exact absurd waits absent
  | use pool now op =>
      obtain ⟨request, rfl, own, there⟩ :=
        (Pool.perform_effect sound now op).entered_request absent waits
      exact ⟨request, rfl, own, there⟩

end Taken

def lookupsIn (strides : List Stride) : List (String × Except TokenError String) :=
  strides.filterMap (·.lookup?)

/-- A step of some kind was taken, and the operation has not freed the project since. -/
def Since (earlier : List Stride) (took : Taken → Prop) (projectId : String) : Prop :=
  ∃ before taking since, earlier = before ++ taking :: since ∧ took taking.toTaken ∧
    ∀ own ∈ since, own.step ≠ .usePool (.free projectId)

/-- How a create of the payload may set up a workspace or let a request wait. -/
def Directed (payload : Payload) (brokerUrl : String) (earlier : List Stride) : Step → Prop
  | .call (.assign slot assignment) => payload.projectId ≠ "" ∧
      (∃ token, payload.GoesBy (lookupsIn earlier) token ∧
        assignment = payload.assignment token brokerUrl) ∧
      Since earlier (·.Claims slot payload.projectId payload.sessionId) payload.projectId
  | .usePool (.enqueue request) => payload.projectId ≠ "" ∧ request.MadeOf payload ∧
      payload.GoesBy (lookupsIn earlier) request.githubToken
  | _ => True

/-- Whoever sets up a workspace for the project goes by a request that was drawn from the queue. -/
def Drawn (projectId brokerUrl : String) (earlier : List Stride) : Step → Prop
  | .call (.assign slot assignment) => assignment.projectId = projectId → ∃ request,
      Since earlier (·.Draws slot request) projectId ∧ assignment = .ofRequest request brokerUrl
  | _ => True

/-- A step that sets nothing up, lets nobody wait and looks up no token. -/
def Step.isAside : Step → Bool
  | .call (.assign _ _) | .call (.lookUpToken _) | .usePool (.enqueue _) => false
  | _ => true

section Rules

variable {step : Step} {took : Taken → Prop}

theorem since_last (taken : took stride.toTaken) : Since (earlier ++ [stride]) took projectId :=
  ⟨earlier, stride, [], rfl, taken, by simp⟩

theorem Since.append (since : Since earlier took projectId)
    (kept : stride.step ≠ .usePool (.free projectId)) :
    Since (earlier ++ [stride]) took projectId := by
  obtain ⟨before, taking, later, rfl, taken, unfreed⟩ := since
  refine ⟨before, taking, later ++ [stride], by simp, taken, ?_⟩
  exact List.forall_mem_append.mpr ⟨unfreed, List.forall_mem_singleton.mpr kept⟩

theorem directed_of_aside (aside : step.isAside = true) : Directed payload brokerUrl earlier step := by
  cases step with
  | readClock => trivial
  | usePool op => cases op <;> trivial
  | call call => cases call <;> trivial

theorem drawn_of_aside (aside : step.isAside = true) : Drawn projectId brokerUrl earlier step := by
  cases step with
  | readClock => trivial
  | usePool op => trivial
  | call call => cases call <;> trivial

theorem lookupsIn_append_aside (aside : stride.step.isAside = true) :
    lookupsIn (strides ++ [stride]) = lookupsIn strides := by
  have nothing : stride.lookup? = none := by
    obtain ⟨⟨pool, now, step, answer⟩, others⟩ := stride
    cases step with
    | readClock => rfl
    | usePool op => rfl
    | call call => cases call <;> first | rfl | contradiction
  simp [lookupsIn, nothing]

end Rules

/-! ### Operations that only draw from the queue -/

section Drawing

variable {rule : List Stride → Step → Prop}

theorem notify_aside (report : Report) : Confined Step.isAside (notify report) :=
  .bind (.step rfl) fun _ => .pure ()

theorem confirmRunning_aside : Confined Step.isAside (confirmRunning slot payload) :=
  .bind (.step rfl) fun _ => .bind (notify_aside _) fun _ => .pure _

theorem tearDown_aside : Confined Step.isAside (tearDown projectId) := by
  apply Confined.bind (.step rfl)
  intro holder
  cases holder with
  | none => exact .pure _
  | some row =>
      apply Confined.bind (.step rfl)
      intro _
      apply Confined.bind (.step rfl)
      intro freed
      cases freed with
      | ok slot => exact .pure _
      | error reason => exact .pure _

theorem noteActivity_aside : Confined Step.isAside (noteActivity projectId) := by
  apply Confined.bind (.step rfl)
  intro holder
  cases holder with
  | none => exact .pure _
  | some row => exact .bind (.step rfl) fun _ => .pure _

theorem pauseIdle_aside (seen : Slot) : Confined Step.isAside (pauseIdle seen) := by
  apply Confined.bind (.step rfl)
  intro now
  apply Confined.bind (.step rfl)
  intro paused
  cases paused with
  | error reason => exact .pure _
  | ok done =>
      apply Confined.bind (notify_aside _)
      intro _
      apply Confined.bind (.step rfl)
      intro _
      apply Confined.bind (.step rfl)
      intro freed
      exact .bind (notify_aside _) fun _ => .pure _

theorem pauseEach_aside (seen : List Slot) : Confined Step.isAside (pauseEach seen) := by
  induction seen with
  | nil => exact .pure _
  | cons row rest ih => exact .bind (pauseIdle_aside row) fun _ => .bind ih fun _ => .pure _

/-- A workspace is set up by the rule that allows it right after it was reported to be so. -/
theorem provision_obeys (aside : ∀ earlier step, step.isAside = true → rule earlier step)
    (obeys : Obeys rule trail.strides)
    (ordered : ∀ (told : Stride) report, told.step = .call (.publish report) →
      rule (trail.strides ++ [told]) (.call (.assign slot (.ofRequest request brokerUrl)))) :
    Withstands (fun _ after => Obeys rule after.strides) (provision brokerUrl slot request)
      trail := by
  unfold provision
  refine .call fun others now answer => .call fun rivals later outcome => ?_
  have assigned : Obeys rule ((trail.after others now (.call (.publish
      (reportOn request .provisioning (provisioningMessage slot)))) answer).after rivals later
      (.call (.assign slot (.ofRequest request brokerUrl))) outcome).strides :=
    (obeys.append (aside _ _ rfl)).append (ordered _ _ rfl)
  cases outcome with
  | error reason => exact .use fun last latest => .pure (assigned.append (aside _ _ rfl))
  | ok done => exact .call fun last latest told => .pure (assigned.append (aside _ _ rfl))

theorem Confined.draws {α : Type} {steps : Steps α} (confined : Confined Step.isAside steps)
    (drawn : Obeys (Drawn projectId brokerUrl) trail.strides) :
    Withstands (fun _ after => Obeys (Drawn projectId brokerUrl) after.strides) steps trail :=
  confined.obeys (fun _ _ => drawn_of_aside) drawn

theorem serveNext_draws (drawn : Obeys (Drawn projectId brokerUrl) trail.strides) :
    Withstands (fun _ after => Obeys (Drawn projectId brokerUrl) after.strides)
      (serveNext brokerUrl) trail := by
  unfold serveNext
  refine .use fun others now => ?_
  split
  · exact .pure (drawn.append (drawn_of_aside rfl))
  · next slot request served =>
    rw [served]
    have claimed : Obeys (Drawn projectId brokerUrl)
        (trail.after others now (.usePool .claimNext) (some (slot, request))).strides :=
      drawn.append (drawn_of_aside rfl)
    have ordered (told : Stride) (report : Report) (published : told.step = .call (.publish report)) :
        Drawn projectId brokerUrl ((trail.after others now (.usePool .claimNext)
          (some (slot, request))).strides ++ [told])
          (.call (.assign slot (.ofRequest request brokerUrl))) := by
      intro own
      exact ⟨request, (since_last ⟨_, _, rfl⟩).append (by simp [published]), rfl⟩
    apply (provision_obeys (fun _ _ => drawn_of_aside) claimed ordered).seq
    intro result after provisioned
    cases result with
    | ok done => exact .pure provisioned
    | error reason => exact (Confined.bind (notify_aside _) fun _ => .pure _).draws provisioned

theorem serve_and_report_draws {α : Type} {conclude : Served → α} {report : Report}
    (freed : Option SlotId) (drawn : Obeys (Drawn projectId brokerUrl) trail.strides) :
    Withstands (fun _ after => Obeys (Drawn projectId brokerUrl) after.strides) (do
      let served ← serveAfter brokerUrl freed
      notify report
      return conclude served) trail := by
  have served : Withstands (fun _ after => Obeys (Drawn projectId brokerUrl) after.strides)
      (serveAfter brokerUrl freed) trail := by
    cases freed with
    | none => exact .pure drawn
    | some slot => exact serveNext_draws drawn
  apply served.seq
  intro served after drawn
  exact (Confined.bind (notify_aside report) fun _ => .pure _).draws drawn

theorem release_draws (drawn : Obeys (Drawn projectId brokerUrl) trail.strides) :
    Withstands (fun _ after => Obeys (Drawn projectId brokerUrl) after.strides)
      (release brokerUrl payload) trail := by
  apply (tearDown_aside.draws drawn).seq
  intro slot after drawn
  cases slot with
  | none =>
      refine .use fun others now => ?_
      exact serve_and_report_draws none (drawn.append (drawn_of_aside rfl))
  | some slot => exact serve_and_report_draws (some slot) drawn

theorem pause_draws (drawn : Obeys (Drawn projectId brokerUrl) trail.strides) :
    Withstands (fun _ after => Obeys (Drawn projectId brokerUrl) after.strides)
      (pause brokerUrl payload) trail := by
  refine .use fun others now => ?_
  have looked (reply : (PoolOp.holder payload.projectId).Reply) : Obeys (Drawn projectId brokerUrl)
      (trail.after others now (.usePool (.holder payload.projectId)) reply).strides :=
    drawn.append (drawn_of_aside rfl)
  split
  · exact (Confined.bind (notify_aside _) fun _ => .pure _).draws (looked _)
  · refine .call fun rest later answer => .use fun last latest => ?_
    apply (tearDown_aside.draws ?marked).seq
    case marked => exact ((looked _).append (drawn_of_aside rfl)).append (drawn_of_aside rfl)
    intro freed after drawn
    exact serve_and_report_draws freed drawn

end Drawing

/-! ### Creates -/

/-- A create on its way: what it has done so far was directed by its payload, and the request that
it goes on with is made of the payload and the token that it goes by. -/
structure Prepared (payload : Payload) (brokerUrl : String) (request : Request) (trail : Trail) :
    Prop where
  obeys : Obeys (Directed payload brokerUrl) trail.strides
  made : request.MadeOf payload
  token : payload.GoesBy (lookupsIn trail.strides) request.githubToken

section Creates

variable {others : List Use} {now : Millis}

theorem Prepared.aside (prepared : Prepared payload brokerUrl request trail) {step : Step}
    {answer : step.Answer} (aside : step.isAside = true) :
    Prepared payload brokerUrl request (trail.after others now step answer) := by
  constructor
  · exact prepared.obeys.append (directed_of_aside aside)
  · exact prepared.made
  · have same : lookupsIn (trail.after others now step answer).strides = lookupsIn trail.strides :=
      lookupsIn_append_aside aside
    rw [same]
    exact prepared.token

theorem Confined.directed {α : Type} {steps : Steps α} (confined : Confined Step.isAside steps)
    (obeys : Obeys (Directed payload brokerUrl) trail.strides) :
    Withstands (fun _ after => Obeys (Directed payload brokerUrl) after.strides) steps trail :=
  confined.obeys (fun _ _ => directed_of_aside) obeys

theorem fillToken_prepares (obeys : Obeys (Directed payload brokerUrl) trail.strides)
    (unasked : lookupsIn trail.strides = []) (now : Millis) :
    Withstands (fun request after => Prepared payload brokerUrl request after)
      (fillToken (Request.ofPayload payload now)) trail := by
  unfold fillToken
  split
  · next lacking =>
    simp only [Request.ofPayload, Bool.and_eq_true, beq_iff_eq, bne_iff_ne] at lacking
    refine .call fun others clock answer => ?_
    have asked : Obeys (Directed payload brokerUrl) (trail.after others clock
        (.call (.lookUpToken (Request.ofPayload payload now).userId)) answer).strides :=
      obeys.append trivial
    have lookups : lookupsIn (trail.after others clock
        (.call (.lookUpToken (Request.ofPayload payload now).userId)) answer).strides =
          [(payload.userId, answer)] := by
      change lookupsIn (trail.strides ++ [_]) = _
      rw [lookupsIn, List.filterMap_append, ← lookupsIn, unasked]
      rfl
    have goes : payload.GoesBy [(payload.userId, answer)] (answer.toOption.getD "") := by
      rw [Payload.GoesBy, if_pos lacking]
      exact ⟨answer, rfl, rfl⟩
    rw [← lookups] at goes
    cases answer with
    | ok token => exact .pure ⟨asked, ⟨now, rfl⟩, goes⟩
    | error reason =>
        refine .pure ⟨asked, ⟨now, rfl⟩, ?_⟩
        have own : (Request.ofPayload payload now).githubToken = "" := lacking.1
        rw [own]
        exact goes
  · next given =>
    simp only [Request.ofPayload, Bool.and_eq_true, beq_iff_eq, bne_iff_ne] at given
    refine .pure ⟨obeys, ⟨now, rfl⟩, ?_⟩
    rw [Payload.GoesBy, if_neg given]
    exact ⟨unasked, rfl⟩

theorem place_prepares (prepared : Prepared payload brokerUrl request trail) (attempts : Nat) :
    Withstands (fun result after => Prepared payload brokerUrl request after ∧
      ∀ slot, result = .ok (.claimed slot) →
        Since after.strides (·.Claims slot payload.projectId payload.sessionId) payload.projectId)
      (place payload.projectId payload.sessionId attempts) trail := by
  induction attempts generalizing trail with
  | zero => exact .pure ⟨prepared, by simp⟩
  | succ attempts ih =>
      unfold place
      refine .use fun others now => ?_
      split
      · exact .pure ⟨prepared.aside rfl, by simp⟩
      · refine .use fun rivals later => ?_
        split
        · next claimed =>
          rw [claimed]
          refine .pure ⟨(prepared.aside rfl).aside rfl, ?_⟩
          rintro slot ⟨⟩
          exact since_last ⟨_, _, rfl⟩
        · exact .pure ⟨(prepared.aside rfl).aside rfl, by simp⟩
        · exact ih ((prepared.aside rfl).aside rfl)
        · exact .pure ⟨(prepared.aside rfl).aside rfl, by simp⟩

theorem enqueue_directed (named : payload.projectId ≠ "")
    (prepared : Prepared payload brokerUrl request trail) :
    Withstands (fun _ after => Obeys (Directed payload brokerUrl) after.strides) (enqueue request)
      trail := by
  refine .use fun others now => ?_
  have entered (reply : (PoolOp.enqueue request).Reply) : Obeys (Directed payload brokerUrl)
      (trail.after others now (.usePool (.enqueue request)) reply).strides :=
    prepared.obeys.append ⟨named, prepared.made, prepared.token⟩
  split
  · exact (Confined.bind (notify_aside _) fun _ => .pure _).directed (entered _)
  · exact (Confined.bind (notify_aside _) fun _ => .pure _).directed (entered _)
  · exact .pure (entered _)

theorem provision_directed (named : payload.projectId ≠ "")
    (prepared : Prepared payload brokerUrl request trail)
    (claimed : Since trail.strides (·.Claims slot payload.projectId payload.sessionId)
      payload.projectId) :
    Withstands (fun _ after => Obeys (Directed payload brokerUrl) after.strides)
      (provision brokerUrl slot request) trail := by
  apply provision_obeys (fun _ _ => directed_of_aside) prepared.obeys
  intro told report published
  have aside : told.step.isAside = true := by rw [published]; rfl
  refine ⟨named, ⟨request.githubToken, ?_, prepared.made.assignment brokerUrl⟩,
    claimed.append (by simp [published])⟩
  rw [lookupsIn_append_aside aside]
  exact prepared.token

theorem create_directed (start : Pool) :
    Withstands (fun _ after => Obeys (Directed payload brokerUrl) after.strides)
      (create brokerUrl payload) (Trail.start start) := by
  unfold create
  split
  · exact .pure obeys_nil
  next given =>
  have named : payload.projectId ≠ "" := by simpa using given
  refine .use fun others now => ?_
  have looked (reply : (PoolOp.holder payload.projectId).Reply) :
      Obeys (Directed payload brokerUrl) ((Trail.start start).after others now
        (.usePool (.holder payload.projectId)) reply).strides :=
    Obeys.append obeys_nil trivial
  split
  · exact .map (confirmRunning_aside.directed (looked _))
  refine .look fun rest clock => ?_
  have asked (reply : (PoolOp.holder payload.projectId).Reply) :
      Obeys (Directed payload brokerUrl) (((Trail.start start).after others now
        (.usePool (.holder payload.projectId)) reply).after rest clock .readClock clock).strides :=
    (looked reply).append trivial
  apply (fillToken_prepares (asked _) rfl clock).seq
  intro request filled prepared
  -- From here on the routes part, with the request made up.
  apply (place_prepares prepared placementAttempts).seq
  intro result placed outcome
  obtain ⟨prepared, claimed⟩ := outcome
  cases result with
  | ok placement =>
      cases placement with
      | held slot => exact .map (confirmRunning_aside.directed prepared.obeys)
      | claimed slot =>
          refine .use fun others now => ?_
          have still (reply : (PoolOp.withdraw payload.projectId).Reply) :
              Since (placed.after others now (.usePool (.withdraw payload.projectId)) reply).strides
                (·.Claims slot payload.projectId payload.sessionId) payload.projectId :=
            (claimed slot rfl).append (by simp [Trail.stride])
          apply (provision_directed named (prepared.aside rfl) (still _)).seq
          intro outcome after obeys
          cases outcome with
          | ok done => exact .pure obeys
          | error reason => exact .pure obeys
  | error reason =>
      cases reason with
      | noSlotsAvailable => exact enqueue_directed named prepared
      | _ => exact .pure prepared.obeys

end Creates

/-! ### Both routes -/

/-- What is ordered is what the payload asks for, never the blank directive, and the slot was given
to the project in the session of the payload. It is so still, unless others freed the project. -/
structure Fulfils (payload : Payload) (token brokerUrl : String) (giving : Stride)
    (since : List Stride) (ordering : Stride) (slot : SlotId) (assignment : Assignment) : Prop where
  asked : assignment = payload.assignment token brokerUrl
  filled : assignment.isBlank = false
  given : giving.left.tenant? slot = some (payload.projectId, payload.sessionId)
  still : (∀ use ∈ othersIn (since ++ [ordering]), use.op ≠ .free payload.projectId) →
    ordering.pool.tenant? slot = some (payload.projectId, payload.sessionId)

section Routes

variable {start : Pool} {token : String} {giving ordering : Stride} {since : List Stride}

theorem Obeys.mono {stronger rule : List Stride → Step → Prop} (obeys : Obeys stronger strides)
    (weaken : ∀ earlier step, stronger earlier step → rule earlier step) : Obeys rule strides :=
  fun front stride back split => weaken front stride.step (obeys front stride back split)

theorem drawn_of_directed (elsewhere : payload.projectId ≠ projectId) {step : Step}
    (directed : Directed payload brokerUrl earlier step) : Drawn projectId brokerUrl earlier step := by
  cases step with
  | readClock => trivial
  | usePool op => trivial
  | call call =>
      cases call with
      | assign slot assignment =>
          intro own
          obtain ⟨-, ⟨token, -, rfl⟩, -⟩ := directed
          exact absurd own elsewhere
      | _ => trivial

/-- Unless it creates the project itself, an operation sets it up only as drawn from the queue. -/
theorem operation_draws (start : Pool) {operation : Operation}
    (other : ¬ operation.Creates projectId) :
    Withstands (fun _ after => Obeys (Drawn projectId brokerUrl) after.strides)
      (operation.steps brokerUrl) (Trail.start start) := by
  cases operation with
  | handle event =>
      have handled : Withstands (fun _ after => Obeys (Drawn projectId brokerUrl) after.strides)
          (handle brokerUrl event) (Trail.start start) := by
        unfold handle
        cases kind : event.kind with
        | createRequested =>
            have elsewhere : event.payload.projectId ≠ projectId :=
              fun own => other ⟨event, rfl, kind, own⟩
            exact (create_directed start).mono fun _ _ obeys =>
              obeys.mono fun _ _ => drawn_of_directed elsewhere
        | releaseRequested => exact .map (release_draws obeys_nil)
        | pauseRequested => exact .map (pause_draws obeys_nil)
        | unknown => exact .pure obeys_nil
      exact handled.seq fun _ _ obeys => .pure obeys
  | pauseIdle idleTimeout =>
      have scanned : Confined Step.isAside (pauseIdleSlots idleTimeout) :=
        .bind (.step rfl) fun seen => pauseEach_aside seen
      exact (Confined.bind scanned fun _ => .pure _).draws obeys_nil
  | serve => exact (serveNext_draws obeys_nil).seq fun _ _ obeys => .pure obeys
  | noteActivity projectId =>
      exact (Confined.bind noteActivity_aside fun _ => .pure _).draws obeys_nil

theorem Trail.Follows.fulfils (follows : trail.Follows start)
    (split : trail.strides = front ++ giving :: since ++ ordering :: back)
    (sound : giving.left.Sound) (named : payload.projectId ≠ "")
    (given : giving.left.tenant? slot = some (payload.projectId, payload.sessionId))
    (unfreed : ∀ own ∈ since, own.step ≠ .usePool (.free payload.projectId)) :
    Fulfils payload token brokerUrl giving since ordering slot
      (payload.assignment token brokerUrl) :=
  ⟨rfl, Payload.assignment_not_blank named token brokerUrl, given,
    follows.still_served split sound given unfreed⟩

theorem Trail.Follows.claimed_fulfils {pool : Pool} (follows : trail.Follows pool)
    (sound : pool.Sound) (directed : Obeys (Directed payload brokerUrl) trail.strides)
    {assignment : Assignment} (split : trail.strides = front ++ ordering :: back)
    (ordered : ordering.step = .call (.assign slot assignment)) :
    ∃ token, payload.GoesBy (lookupsIn front) token ∧
      ∃ before claiming since, front = before ++ claiming :: since ∧
        claiming.step = .usePool (.claim slot payload.projectId payload.sessionId) ∧
        Fulfils payload token brokerUrl claiming since ordering slot assignment := by
  have rule := directed front ordering back split
  rw [ordered] at rule
  obtain ⟨named, ⟨token, goes, rfl⟩, before, claiming, since, rfl, claims, unfreed⟩ := rule
  have regrouped : trail.strides = before ++ claiming :: (since ++ ordering :: back) := by
    rw [split]
    simp
  have claimSound := follows.sound_at sound regrouped
  have told := (follows.strides _ _ _ regrouped).2
  have given := told.tenant_of_claims claimSound claims
  have leftSound : claiming.left.Sound := sound_leave claimSound claiming.now claiming.step
  obtain ⟨shown, now, shape⟩ := claims
  exact ⟨token, goes, before, claiming, since, rfl, congrArg Taken.step shape,
    follows.fulfils split leftSound named given unfreed⟩

theorem Trail.Follows.drawn_fulfils {pool found : Pool} (follows : trail.Follows found)
    (sound : pool.Sound) (queued : request ∈ pool.waiting) (made : request.MadeOf payload)
    (named : payload.projectId ≠ "")
    (obeys : Obeys (Drawn payload.projectId brokerUrl) trail.strides)
    {assignment : Assignment} (split : trail.strides = front ++ ordering :: back)
    (ordered : ordering.step = .call (.assign slot assignment))
    (own : assignment.projectId = payload.projectId) :
    ∃ before drawing since, front = before ++ drawing :: since ∧
      drawing.step = .usePool .claimNext ∧
      ∀ between, drawing.pool = pool.run between →
        pool.KeepsWaiting payload.projectId between →
        Fulfils payload request.githubToken brokerUrl drawing since ordering slot assignment := by
  have rule := obeys front ordering back split
  rw [ordered] at rule
  obtain ⟨drawnRequest, ⟨before, drawing, since, rfl, draws, unfreed⟩, rfl⟩ := rule own
  obtain ⟨shown, now, shape⟩ := draws
  refine ⟨before, drawing, since, rfl, congrArg Taken.step shape, ?_⟩
  intro between reached waiting
  have regrouped : trail.strides = before ++ drawing :: (since ++ ordering :: back) := by
    rw [split]
    simp
  have drawSound : drawing.pool.Sound := by
    rw [reached]
    exact sound.run between
  have told := (follows.strides _ _ _ regrouped).2
  obtain ⟨member, given⟩ := told.drawn drawSound ⟨shown, now, shape⟩
  -- The request that was drawn is the one that was let wait.
  have kept : request ∈ drawing.pool.waiting := by
    rw [reached]
    exact Pool.run_request_kept sound queued between (by rwa [made.projectId])
  obtain rfl := drawSound.same_request kept member (own.trans made.projectId.symm)
  rw [made.projectId, made.sessionId] at given
  rw [made.assignment]
  exact follows.fulfils split (sound_leave drawSound drawing.now drawing.step) named given unfreed

/-- A create that is handled among any company comes to one assignment on either route. When it
sets up a workspace itself, the assignment is made of the payload and the token that it went by. And
when it lets the project wait, any operation but another create that has the project set up has
drawn its request from the queue; if the project has waited since the create let it, whatever else
was done with the pool meanwhile, further requests of the project included, the assignment is the
one that the create would have made. -/
theorem both_routes_assign_alike (slotCount : UInt32) (capacity : Nat) (start : Millis)
    (history : List Use) (company : Company) (brokerUrl : String) (timestamp : Calendar.Timestamp)
    (payload : Payload) :
    let pool := (Pool.create slotCount capacity start).run history
    let created := ((Trail.start pool).run company
      (handle brokerUrl ⟨.createRequested, timestamp, payload⟩)).2
    (∀ front ordering back slot assignment, created.strides = front ++ ordering :: back →
      ordering.step = .call (.assign slot assignment) →
      ∃ token, payload.GoesBy (lookupsIn front) token ∧
        ∃ before claiming since, front = before ++ claiming :: since ∧
          claiming.step = .usePool (.claim slot payload.projectId payload.sessionId) ∧
          Fulfils payload token brokerUrl claiming since ordering slot assignment) ∧
    ∀ front entering back, created.strides = front ++ entering :: back →
      ¬ entering.pool.Waits payload.projectId → entering.left.Waits payload.projectId →
      ∃ token, payload.GoesBy (lookupsIn front) token ∧
        ∀ (operation : Operation) (found : Pool) (others : Company),
          ¬ operation.Creates payload.projectId →
          let drawn := ((Trail.start found).run others (operation.steps brokerUrl)).2
          ∀ ahead ordering behind slot assignment,
            drawn.strides = ahead ++ ordering :: behind →
            ordering.step = .call (.assign slot assignment) →
            assignment.projectId = payload.projectId →
            ∃ before drawing since, ahead = before ++ drawing :: since ∧
              drawing.step = .usePool .claimNext ∧
              ∀ between, drawing.pool = entering.left.run between →
                entering.left.KeepsWaiting payload.projectId between →
                Fulfils payload token brokerUrl drawing since ordering slot assignment := by
  intro pool created
  have sound : pool.Sound := (Pool.create_sound slotCount capacity start).run history
  have follows : created.Follows pool := run_follows (start_follows pool) company _
  have directed : Obeys (Directed payload brokerUrl) created.strides :=
    (create_directed pool).run company
  constructor
  · intro front ordering back slot assignment split ordered
    exact follows.claimed_fulfils sound directed split ordered
  · intro front entering back split absent waits
    have enterSound := follows.sound_at sound split
    have told := (follows.strides _ _ _ split).2
    obtain ⟨request, enters, -, queued⟩ := told.entered enterSound absent waits
    have rule := directed front entering back split
    rw [enters] at rule
    obtain ⟨named, made, goes⟩ := rule
    have leftSound : entering.left.Sound := sound_leave enterSound entering.now entering.step
    refine ⟨request.githubToken, goes, ?_⟩
    intro operation found others other drawn ahead ordering behind slot assignment parts ordered same
    have drawnFollows : drawn.Follows found := run_follows (start_follows found) others _
    have obeys : Obeys (Drawn payload.projectId brokerUrl) drawn.strides :=
      (operation_draws found other).run others
    exact drawnFollows.drawn_fulfils leftSound queued made named obeys parts ordered same

/-- One project is set up at once where a slot is free. Where none is, it waits, is created again
by another payload, and is set up in the same way when the slot is given up. -/
example :
    let create (payload : Payload) : Operation := .handle ⟨.createRequested, .epoch, payload⟩
    let release (payload : Payload) : Operation := .handle ⟨.releaseRequested, .epoch, payload⟩
    let payload : Payload := ⟨"project", "user", "repository", "session", "", " "⟩
    let again : Payload := ⟨"project", "", "elsewhere", "another session", "token", "branch"⟩
    let first : Payload := ⟨"first", "", "", "session", "token", ""⟩
    let around : Surroundings := .still 0 fun _ => fun
      | .publish _ | .assign _ _ | .release _ _ => .ok ()
      | .lookUpToken _ => .ok "found"
    let assigns (operations : List Operation) :=
      ((Scene.fresh 1 1 0).runAll around "broker" operations).assigns
    let order : SlotId × Assignment :=
      (⟨1⟩, ⟨"project", "session", "repository", "found", "broker", "main"⟩)
    assigns [create payload] = [order] ∧
      assigns [create first, create payload, create again, release first] =
        [(⟨1⟩, first.assignment "token" "broker"), order] := by
  decide +kernel

end Routes

end Workflow

end WorkspacePool
