import WorkspacePool.Proofs.Pool.Rewriting
import WorkspacePool.Proofs.Workflow.Founding
import WorkspacePool.Proofs.Workflow.Truthfulness

/-!
Handling an event leaves other projects alone. Besides the project of the event it deals with one
guest at most, the head of the queue that is served after a slot was freed. The slots of all others
stay as they are, no call concerns them, and of their requests only those leave the queue that stand
before the guest's and whose projects hold slots already.
-/

namespace WorkspacePool.Workflow

/-- A project that was handed a slot from the queue, and that slot. -/
abbrev Guest := Option (SlotId × String)

def Served.guest? : Served → Guest
  | .idle => none
  | .provisioned slot projectId | .failed slot projectId => some (slot, projectId)

def Consequence.guest? : Consequence → Guest
  | .released _ served | .paused _ served => served.guest?
  | _ => none

/-- The guest of the handling of an event. A handling that fails has none. -/
def guestOf : Except WorkflowError Consequence → Guest
  | .ok consequence => consequence.guest?
  | .error _ => none

variable {before pool : Pool} {own projectId : String} {slot seat : SlotId} {row : Slot}
  {guest : Guest} {scene : Scene} {now : Millis} {op : PoolOp} {brokerUrl : String}

/-! ### Slots of other projects -/

/-- The slot holds another project. -/
def Outsider (pool : Pool) (own : String) (slot : SlotId) (row : Slot) : Prop :=
  pool.slot? slot = some row ∧ ∃ other, row.holds other = true ∧ other ≠ own

/-- What the slots of others showed before they show still. -/
structure Undisturbed (before : Pool) (own : String) (pool : Pool) : Prop where
  sound : pool.Sound
  rows : ∀ slot row, Outsider before own slot row → pool.slot? slot = some row

theorem Undisturbed.use (kept : Undisturbed before own pool) (now : Millis)
    (spares : ∀ slot row, op.target? (pool.perform now op).1 = some slot →
      Outsider before own slot row → pool.slot? slot = some row → op.admits row = false) :
    Undisturbed before own (pool.perform now op).2 := by
  refine ⟨(Pool.perform_effect kept.sound now op).sound kept.sound, ?_⟩
  intro slot row outsider
  have here := kept.rows slot row outsider
  by_cases target : op.target? (pool.perform now op).1 = some slot
  · obtain ⟨same, again, admitted, -⟩ := Pool.perform_rewrites kept.sound now op target
    obtain rfl : row = same := Option.some.inj (here.symm.trans again)
    simp [spares slot row target outsider here] at admitted
  · rw [Pool.perform_frame kept.sound now op target]
    exact here

/-- A slot that is not busy is nobody's. -/
theorem Outsider.busy (outsider : Outsider before own slot row) : row.isBusy = true := by
  obtain ⟨-, other, held, -⟩ := outsider
  exact (Slot.holds_iff.mp held).1

theorem Outsider.not_holds (outsider : Outsider before own slot row) : row.holds own = false := by
  obtain ⟨-, other, held, different⟩ := outsider
  rw [Bool.eq_false_iff]
  intro own
  exact different ((Slot.holds_iff.mp held).2.2.symm.trans (Slot.holds_iff.mp own).2.2)

theorem Undisturbed.not_outsider (kept : Undisturbed before own pool)
    (held : HeldBy pool slot own) (row : Slot) : ¬ Outsider before own slot row := by
  intro outsider
  obtain ⟨holder, member, rfl, holds⟩ := held
  have found := (Pool.slot?_eq_some_iff kept.sound).mpr ⟨member, rfl⟩
  obtain rfl : holder = row := Option.some.inj (found.symm.trans (kept.rows _ _ outsider))
  simp [outsider.not_holds] at holds

/-- Who holds no slot now held none before, but for the project itself. -/
theorem Undisturbed.unheld_before (kept : Undisturbed before own pool) (sound : before.Sound)
    (unheld : pool.holder? projectId = none) :
    projectId = own ∨ before.holder? projectId = none := by
  by_cases same : projectId = own
  · exact .inl same
  · right
    cases holder : before.holder? projectId with
    | none => rfl
    | some row =>
        obtain ⟨member, held⟩ := (Pool.holder?_eq_some_iff sound).mp holder
        have outsider : Outsider before own row.id row :=
          ⟨(Pool.slot?_eq_some_iff sound).mpr ⟨member, rfl⟩, projectId, held, same⟩
        have still := List.mem_of_find?_eq_some (kept.rows _ _ outsider)
        simp [Pool.holder?_eq_none_iff.mp unheld row still] at held

/-! ### Calls and the queue -/

/-- The call is about the project itself or the guest. A slot that it addresses held the project
before, or was vacant, or the project made room there for the guest. -/
def Call.Concerns (before : Pool) (own : String) (guest : Guest) : Call → Prop
  | .publish report => report.projectId = own ∨ guest.map (·.2) = some report.projectId
  | .assign slot assignment =>
      (assignment.projectId = own ∨ guest = some (slot, assignment.projectId)) ∧
        ∀ row, ¬ Outsider before own slot row
  | .release slot projectId => projectId = own ∧ HeldBy before slot own
  | .lookUpToken _ => True

structure Isolated (before : Pool) (own : String) (guest : Guest) (scene : Scene) : Prop
    extends Undisturbed before own scene.pool where
  calls : ∀ exchange ∈ scene.exchanges, exchange.call.Concerns before own guest

theorem Isolated.call (isolated : Isolated before own guest scene) (exchange : Exchange)
    (concerns : exchange.call.Concerns before own guest) :
    Isolated before own guest (scene.afterCall exchange) := by
  refine ⟨isolated.toUndisturbed, ?_⟩
  intro made member
  rcases List.mem_append.mp member with earlier | new
  · exact isolated.calls made earlier
  · rw [List.mem_singleton.mp new]
    exact concerns

theorem Isolated.use (isolated : Isolated before own guest scene) (now : Millis)
    (spares : ∀ slot row, op.target? (scene.pool.perform now op).1 = some slot →
      Outsider before own slot row → scene.pool.slot? slot = some row → op.admits row = false) :
    Isolated before own guest (scene.afterUse now op) :=
  ⟨isolated.toUndisturbed.use now spares, isolated.calls⟩

theorem Isolated.afterReading (isolated : Isolated before own guest scene) :
    Isolated before own guest scene.afterReading :=
  ⟨isolated.toUndisturbed, isolated.calls⟩

/-- A use that rewrites no row. -/
theorem Isolated.look (isolated : Isolated before own guest scene) (now : Millis)
    (still : ∀ reply : op.Reply, op.target? reply = none) :
    Isolated before own guest (scene.afterUse now op) :=
  isolated.use now fun slot row target => by simp [still] at target

/-- A use that rewrites the row of the project itself. -/
theorem Isolated.useOwn (isolated : Isolated before own guest scene) (now : Millis)
    (held : HeldBy scene.pool seat own)
    (target : ∀ (reply : op.Reply) slot, op.target? reply = some slot → slot = seat) :
    Isolated before own guest (scene.afterUse now op) := by
  apply isolated.use now
  intro slot row rewritten outsider _
  rw [target _ slot rewritten] at outsider
  exact absurd outsider (isolated.not_outsider held row)

theorem Isolated.free (isolated : Isolated before own guest scene) (now : Millis)
    (unheld : projectId = own ∨ before.holder? projectId = none) :
    Isolated before own guest (scene.afterUse now (.free projectId)) := by
  apply isolated.use now
  intro slot row _ outsider _
  rcases unheld with rfl | unheld
  · exact outsider.not_holds
  · exact Pool.holder?_eq_none_iff.mp unheld row (List.mem_of_find?_eq_some outsider.1)

theorem Isolated.welcome (isolated : Isolated before own none scene) (guest : Guest) :
    Isolated before own guest scene := by
  refine ⟨isolated.toUndisturbed, ?_⟩
  intro made member
  have concerns := isolated.calls made member
  revert concerns
  cases made.call with
  | publish report => exact fun concerns => .inl (concerns.resolve_right nofun)
  | assign slot assignment =>
      exact fun concerns => ⟨.inl (concerns.1.resolve_right nofun), concerns.2⟩
  | release slot projectId => exact id
  | lookUpToken userId => exact id

/-- Whose requests have left the queue: the project's own, the guest's, and those before the guest's
whose projects held slots already. -/
def Thinned (before : Pool) (own : String) (guest : Guest) (waiting : List Request) : Prop :=
  ∀ front request back, before.waiting = front ++ request :: back → request ∉ waiting →
    request.projectId = own ∨ guest.map (·.2) = some request.projectId ∨
      (before.Hosts request.projectId ∧ ∀ slot projectId, guest = some (slot, projectId) →
        ∃ other ∈ back, other.projectId = projectId)

theorem thinned_of_own {waiting : List Request}
    (kept : ∀ request ∈ before.waiting, request.projectId ≠ own → request ∈ waiting) :
    Thinned before own guest waiting := by
  intro front request back split gone
  by_cases same : request.projectId = own
  · exact .inl same
  · exact absurd (kept request (by simp [split]) same) gone

theorem thinned_of_kept {waiting : List Request} (kept : waiting = before.waiting) :
    Thinned before own guest waiting :=
  thinned_of_own fun _ member _ => kept ▸ member

theorem withdraw_keeps_others {request : Request} (member : request ∈ pool.waiting)
    (other : request.projectId ≠ own) : request ∈ (pool.withdraw own).2.waiting := by
  unfold Pool.withdraw
  split
  · exact member
  · exact (List.mem_eraseP_of_neg (by simpa using other)).mpr member

/-- Serving the queue takes the guest out, and those ahead who hold slots. -/
theorem claimNext_thins {reply : PoolOp.claimNext.Reply} {after : Pool}
    (effect : pool.Effect now .claimNext reply after) (same : pool.waiting = before.waiting)
    (hosts : ∀ projectId, pool.Hosts projectId → before.Hosts projectId) (sound : pool.Sound) :
    Thinned before own (reply.map fun served => (served.1, served.2.projectId)) after.waiting := by
  have held {request : Request} (holder : (pool.holder? request.projectId).isSome = true) :
      before.Hosts request.projectId := by
    obtain ⟨row, found⟩ := Option.isSome_iff_exists.mp holder
    exact hosts _ ⟨row.id, row.sessionId, Pool.tenant?_of_holder? sound found⟩
  cases effect with
  | unchanged | adjusted => exact thinned_of_kept same
  | emptied all =>
      intro front request back split _
      exact .inr (.inr ⟨held (all request (by simp [same, split])), by simp⟩)
  | served discarded request rest slot slots queue all =>
      intro front gone back split missing
      rcases split_cases (same.symm.trans queue) split with ⟨-, rfl, -⟩ | ⟨between, later, -⟩ |
        ⟨between, later, earlier⟩
      · exact .inr (.inl rfl)
      · exact absurd (by simp [later]) missing
      · refine .inr (.inr ⟨held (all gone (by simp [earlier])), ?_⟩)
        rintro _ _ ⟨⟩
        exact ⟨request, by simp [later], rfl⟩

/-! ### Procedures -/

theorem notify_isolated (isolated : Isolated before own guest scene) {report : Report}
    (party : report.projectId = own ∨ guest.map (·.2) = some report.projectId) :
    Ensures (fun _ after => Isolated before own guest after ∧ after.pool = scene.pool)
      (notify report) scene :=
  .call fun answer => .pure ⟨isolated.call ⟨.publish report, answer⟩ party, rfl⟩

/-- A report on the project itself is the last step of an operation. -/
theorem report_isolated {α : Type} {goal : α → Scene → Prop} {report : Report} {result : α}
    (isolated : Isolated before own guest scene) (party : report.projectId = own)
    (reached : ∀ after, Isolated before own guest after → after.pool = scene.pool →
      goal result after) : Ensures goal (do notify report; return result) scene :=
  (notify_isolated isolated (.inl party)).seq fun _ after told => .pure (reached after told.1 told.2)

theorem provision_isolated {request : Request} (isolated : Isolated before own guest scene)
    (party : request.projectId = own ∨ guest = some (seat, request.projectId))
    (room : ∀ row, ¬ Outsider before own seat row)
    (unheld : request.projectId = own ∨ before.holder? request.projectId = none) :
    Ensures (fun _ after => Isolated before own guest after ∧
      after.pool.waiting = scene.pool.waiting) (provision brokerUrl seat request) scene := by
  have named : request.projectId = own ∨ guest.map (·.2) = some request.projectId :=
    party.imp_right fun welcomed => by simp [welcomed]
  unfold provision
  refine (notify_isolated isolated named).seq fun _ told reported => .call fun answer => ?_
  have asked := reported.1.call ⟨.assign seat (.ofRequest request brokerUrl), answer⟩ ⟨party, room⟩
  cases answer with
  | error reason =>
      refine .use fun now => .pure ⟨asked.free now unheld, ?_⟩
      exact (Pool.perform_waiting _ (.free _) now rfl).trans (congrArg Pool.waiting reported.2)
  | ok done =>
      refine (notify_isolated asked named).seq fun _ after last => .pure ⟨last.1, ?_⟩
      exact congrArg Pool.waiting (last.2.trans reported.2)

theorem serveNext_isolated (sound : before.Sound) (isolated : Isolated before own none scene)
    (same : scene.pool.waiting = before.waiting)
    (hosts : ∀ projectId, scene.pool.Hosts projectId → before.Hosts projectId) :
    Ensures (fun served after => Isolated before own served.guest? after ∧
      Thinned before own served.guest? after.pool.waiting) (serveNext brokerUrl) scene := by
  unfold serveNext
  refine .use fun now => ?_
  have effect : scene.pool.Effect now .claimNext (scene.pool.perform now .claimNext).1
      (scene.afterUse now .claimNext).pool := Pool.claimNext_effect isolated.sound
  have thinned : Thinned before own _ (scene.afterUse now .claimNext).pool.waiting :=
    claimNext_thins effect same hosts isolated.sound
  -- The slot that is handed out is not busy, so it is nobody's.
  have kept : Isolated before own none (scene.afterUse now .claimNext) :=
    isolated.use now fun slot row _ outsider _ => by simp [PoolOp.admits, outsider.busy]
  split
  · next nobody =>
    rw [nobody] at thinned
    exact .pure ⟨kept, thinned⟩
  · next slot request served =>
    rw [served] at effect thinned
    have unheld := isolated.unheld_before sound effect.served_unheld
    have room (row : Slot) : ¬ Outsider before own slot row := by
      intro outsider
      have rewrites : scene.pool.Rewrites now .claimNext slot :=
        Pool.claimNext_rewrites isolated.sound served
      obtain ⟨other, found, free, -⟩ := rewrites
      obtain rfl := Option.some.inj (found.symm.trans (isolated.rows _ _ outsider))
      simp [PoolOp.admits, outsider.busy] at free
    have welcomed := kept.welcome (some (slot, request.projectId))
    refine (provision_isolated welcomed (.inr rfl) room unheld).seq fun result after setUp => ?_
    cases result with
    | ok done => exact .pure ⟨setUp.1, setUp.2 ▸ thinned⟩
    | error reason =>
        refine (notify_isolated setUp.1 (.inr rfl)).seq fun _ last told => .pure ⟨told.1, ?_⟩
        rw [told.2, setUp.2]
        exact thinned

/-- A workspace is torn down in the slot where its project was when the event came. -/
theorem tearDown_isolated (isolated : Isolated before own none scene)
    (there : ∀ row, scene.pool.holder? own = some row → HeldBy before row.id own) :
    Ensures (fun _ after => Isolated before own none after ∧
      after.pool.waiting = scene.pool.waiting ∧
      ∀ projectId, after.pool.Hosts projectId → scene.pool.Hosts projectId)
      (tearDown own) scene := by
  unfold tearDown
  refine .use fun reading => ?_
  have looked : Isolated before own none (scene.afterUse reading (.holder own)) :=
    isolated.look reading fun _ => rfl
  simp only [Pool.perform]
  cases holder : scene.pool.holder? own with
  | none => exact .pure ⟨looked, rfl, fun _ => id⟩
  | some row =>
      refine .call fun answer => .use fun now => ?_
      have called := looked.call ⟨.release row.id own, answer⟩ ⟨rfl, there row holder⟩
      have freed := called.free now (.inl rfl)
      have same : (scene.pool.free own now).2.waiting = scene.pool.waiting :=
        Pool.perform_waiting scene.pool (.free own) now rfl
      have fewer (projectId : String) (hosts : (scene.pool.free own now).2.Hosts projectId) :
          scene.pool.Hosts projectId := Pool.hosts_before_free isolated.sound hosts
      split
      · exact .pure ⟨freed, same, fewer⟩
      · exact .pure ⟨freed, same, fewer⟩

theorem confirmRunning_isolated {payload : Payload}
    (isolated : Isolated before payload.projectId none scene)
    (held : HeldBy scene.pool seat payload.projectId) :
    Ensures (fun result after => result.guest? = none ∧
      Isolated before payload.projectId none after ∧
      after.pool.waiting = scene.pool.waiting) (confirmRunning seat payload) scene := by
  refine .use fun now => ?_
  have touched : Isolated before payload.projectId none (scene.afterUse now (.touch seat)) := by
    apply isolated.useOwn now held
    intro reply slot target
    cases reply with
    | ok done => simpa [PoolOp.target?, eq_comm] using target
    | error reason => simp [PoolOp.target?] at target
  apply report_isolated touched rfl
  intro after told same
  rw [same]
  exact ⟨rfl, told, Pool.perform_waiting scene.pool (.touch seat) now rfl⟩

theorem fillToken_isolated (isolated : Isolated before own none scene) (request : Request) :
    Ensures (fun filled after => Isolated before own none after ∧ after.pool = scene.pool ∧
      filled.projectId = request.projectId) (fillToken request) scene := by
  unfold fillToken
  split
  · refine .call fun answer => ?_
    have asked := isolated.call ⟨.lookUpToken request.userId, answer⟩ trivial
    cases answer with
    | ok githubToken => exact .pure ⟨asked, rfl, rfl⟩
    | error reason => exact .pure ⟨asked, rfl, rfl⟩
  · exact .pure ⟨isolated, rfl, rfl⟩

/-- A place is found where nobody is, or where the project is. -/
theorem place_isolated {sessionId : String} (isolated : Isolated before own none scene)
    (attempts : Nat) :
    Ensures (fun result after => Isolated before own none after ∧
      after.pool.waiting = scene.pool.waiting ∧
      (∀ slot, result = .ok (.claimed slot) → ∀ row, ¬ Outsider before own slot row) ∧
      ∀ slot, result = .ok (.held slot) → HeldBy after.pool slot own)
      (place own sessionId attempts) scene := by
  induction attempts generalizing scene with
  | zero => exact .pure ⟨isolated, rfl, by simp, by simp⟩
  | succ attempts ih =>
      refine .use fun reading => ?_
      have looked : Isolated before own none (scene.afterUse reading .findFree) :=
        isolated.look reading fun _ => rfl
      split
      · exact .pure ⟨looked, rfl, by simp, by simp⟩
      next slot shown =>
      refine .use fun now => ?_
      have tried : Isolated before own none
          ((scene.afterUse reading .findFree).afterUse now (.claim slot own sessionId)) :=
        looked.use now fun _ _ _ outsider _ => by simp [PoolOp.admits, outsider.busy]
      have same := Pool.perform_waiting scene.pool (.claim slot own sessionId) now rfl
      split
      · next granted =>
        refine .pure ⟨tried, same, ?_, by simp⟩
        rintro _ ⟨⟩ row outsider
        obtain ⟨other, found, free, -⟩ := Pool.claim_rewrites isolated.sound granted
        obtain rfl := Option.some.inj (found.symm.trans (isolated.rows _ _ outsider))
        simp [PoolOp.admits, outsider.busy] at free
      · next other holder refused =>
        refine .pure ⟨tried, same, by simp, ?_⟩
        rintro _ ⟨⟩
        exact heldBy_of_elsewhere isolated.sound refused
      · refine (ih tried).mono fun result after placed => ?_
        exact ⟨placed.1, placed.2.1.trans same, placed.2.2⟩
      · exact .pure ⟨tried, same, by simp, by simp⟩

theorem enqueue_isolated {request : Request} (isolated : Isolated before own none scene)
    (party : request.projectId = own) :
    Ensures (fun result after => guestOf result = none ∧ Isolated before own none after ∧
      ∀ waiting ∈ scene.pool.waiting, waiting ∈ after.pool.waiting) (enqueue request) scene := by
  refine .use fun now => ?_
  have asked : Isolated before own none (scene.afterUse now (.enqueue request)) :=
    isolated.look now fun _ => rfl
  have kept : ∀ waiting ∈ scene.pool.waiting,
      waiting ∈ (scene.afterUse now (.enqueue request)).pool.waiting := by
    intro waiting member
    change waiting ∈ (scene.pool.enqueue request).2.waiting
    rcases Pool.enqueue_waiting scene.pool request with same | longer
    · rw [same]
      exact member
    · rw [longer]
      exact List.mem_append_left _ member
  split
  · exact report_isolated asked party fun _ told same => ⟨rfl, told, same ▸ kept⟩
  · exact report_isolated asked party fun _ told same => ⟨rfl, told, same ▸ kept⟩
  · exact .pure ⟨rfl, asked, kept⟩

/-- What is ensured of the handling of an event. -/
def Handling (before : Pool) (own : String) (result : Except WorkflowError Consequence)
    (after : Scene) : Prop :=
  Isolated before own (guestOf result) after ∧
    Thinned before own (guestOf result) after.pool.waiting

theorem create_isolated {payload : Payload}
    (isolated : Isolated before payload.projectId none scene)
    (start : scene.pool.waiting = before.waiting) :
    Ensures (Handling before payload.projectId) (create brokerUrl payload) scene := by
  have confirmed {seat : SlotId} {found : Scene}
      (isolated : Isolated before payload.projectId none found)
      (same : found.pool.waiting = before.waiting)
      (held : HeldBy found.pool seat payload.projectId) :
      Ensures (Handling before payload.projectId) (.ok <$> confirmRunning seat payload) found := by
    refine .map ((confirmRunning_isolated isolated held).mono fun result after ended => ?_)
    obtain ⟨alone, kept, unchanged⟩ := ended
    unfold Handling
    rw [guestOf, alone]
    exact ⟨kept, thinned_of_kept (unchanged.trans same)⟩
  unfold create
  split
  · exact .pure ⟨isolated, thinned_of_kept start⟩
  refine .use fun reading => ?_
  have looked : Isolated before payload.projectId none
      (scene.afterUse reading (.holder payload.projectId)) := isolated.look reading fun _ => rfl
  split
  · next row holder =>
    exact confirmed looked start (heldBy_of_holder? isolated.sound holder)
  refine .look fun now => (fillToken_isolated looked.afterReading _).seq ?_
  rintro request filled ⟨asked, samePool, sameProject⟩
  replace sameProject : request.projectId = payload.projectId := sameProject
  have waiting : filled.pool.waiting = before.waiting :=
    (congrArg Pool.waiting samePool).trans start
  refine (place_isolated asked placementAttempts).seq ?_
  rintro result placed ⟨tried, same, room, held⟩
  replace waiting := same.trans waiting
  split
  · next slot => exact confirmed tried waiting (held slot rfl)
  · refine (enqueue_isolated tried sameProject).mono fun result after ended => ?_
    unfold Handling
    rw [ended.1]
    exact ⟨ended.2.1, thinned_of_own fun request member _ => ended.2.2 request (waiting ▸ member)⟩
  · exact .pure ⟨tried, thinned_of_kept waiting⟩
  · next slot =>
    refine .use fun later => ?_
    have left : Isolated before payload.projectId none
        (placed.afterUse later (.withdraw payload.projectId)) := tried.look later fun _ => rfl
    have thinned : Thinned before payload.projectId none
        (placed.pool.withdraw payload.projectId).2.waiting :=
      thinned_of_own fun request member other => withdraw_keeps_others (waiting ▸ member) other
    refine (provision_isolated left (.inl sameProject) (room slot rfl) (.inl sameProject)).seq ?_
    intro outcome ended setUp
    have reached : Thinned before payload.projectId none ended.pool.waiting := setUp.2 ▸ thinned
    cases outcome with
    | ok done => exact .pure ⟨setUp.1, reached⟩
    | error reason => exact .pure ⟨setUp.1, reached⟩

theorem serveAfter_isolated (sound : before.Sound) (isolated : Isolated before own none scene)
    (freed : Option SlotId) (thinned : Thinned before own none scene.pool.waiting)
    (same : freed ≠ none → scene.pool.waiting = before.waiting)
    (hosts : ∀ projectId, scene.pool.Hosts projectId → before.Hosts projectId) :
    Ensures (fun served after => Isolated before own served.guest? after ∧
      Thinned before own served.guest? after.pool.waiting) (serveAfter brokerUrl freed) scene := by
  cases freed with
  | none => exact .pure ⟨isolated, thinned⟩
  | some slot => exact serveNext_isolated sound isolated (same (by simp)) hosts

/-- What is left of giving up a slot: the queue is served, and the project is told. -/
theorem serve_and_report_isolated {report : Report} {conclude : Served → Consequence}
    (party : report.projectId = own)
    (concludes : ∀ served, (conclude served).guest? = served.guest?) {freed : Option SlotId}
    (serves : Ensures (fun served after => Isolated before own served.guest? after ∧
      Thinned before own served.guest? after.pool.waiting) (serveAfter brokerUrl freed) scene) :
    Ensures (fun consequence after => Handling before own (.ok consequence) after) (do
      let served ← serveAfter brokerUrl freed
      notify report
      return conclude served) scene := by
  refine serves.seq fun served after reached => ?_
  apply report_isolated reached.1 party
  intro last told same
  unfold Handling
  rw [guestOf, concludes, same]
  exact ⟨told, reached.2⟩

theorem release_isolated {payload : Payload} (sound : scene.pool.Sound)
    (isolated : Isolated scene.pool payload.projectId none scene) :
    Ensures (fun consequence after => Handling scene.pool payload.projectId (.ok consequence) after)
      (release brokerUrl payload) scene := by
  unfold release
  refine (tearDown_isolated isolated fun row holder => heldBy_of_holder? sound holder).seq ?_
  rintro freed torn ⟨kept, same, hosts⟩
  cases freed with
  | some slot =>
      apply serve_and_report_isolated
      · rfl
      · exact fun _ => rfl
      · exact serveAfter_isolated sound kept _ (thinned_of_kept same) (fun _ => same) hosts
  | none =>
      refine .use fun now => ?_
      have left : Isolated scene.pool payload.projectId none
          (torn.afterUse now (.withdraw payload.projectId)) := kept.look now fun _ => rfl
      apply serve_and_report_isolated
      · rfl
      · exact fun _ => rfl
      · refine .pure ⟨left, thinned_of_own fun request member other => ?_⟩
        exact withdraw_keeps_others (same ▸ member) other

theorem mark_tenants (sound : pool.Sound) (slot : SlotId) (status : SlotStatus) :
    (pool.mark slot status).2.tenant? = pool.tenant? := by
  have effect : pool.Effect 0 (.mark slot status) _ _ := Pool.mark_effect
  exact effect.transfers sound

theorem pause_isolated {payload : Payload} (sound : scene.pool.Sound)
    (isolated : Isolated scene.pool payload.projectId none scene) :
    Ensures (fun consequence after => Handling scene.pool payload.projectId (.ok consequence) after)
      (pause brokerUrl payload) scene := by
  unfold pause
  refine .use fun reading => ?_
  have looked : Isolated scene.pool payload.projectId none
      (scene.afterUse reading (.holder payload.projectId)) := isolated.look reading fun _ => rfl
  split
  · apply report_isolated looked rfl
    intro after told same
    exact ⟨told, thinned_of_kept (congrArg Pool.waiting same)⟩
  next row holder =>
  have held : HeldBy scene.pool row.id payload.projectId := heldBy_of_holder? sound holder
  refine (notify_isolated looked (.inl rfl)).seq fun _ told reported => .use fun now => ?_
  obtain ⟨kept, same⟩ := reported
  replace same : told.pool = scene.pool := same
  have marked : Isolated scene.pool payload.projectId none
      (told.afterUse now (.mark row.id .paused)) := by
    apply kept.useOwn now (same ▸ held)
    intro reply slot target
    cases reply with
    | ok done => simpa [PoolOp.target?, eq_comm] using target
    | error reason => simp [PoolOp.target?] at target
  have tenants : (told.afterUse now (.mark row.id .paused)).pool.tenant? = scene.pool.tenant? :=
    (mark_tenants kept.sound row.id .paused).trans (congrArg Pool.tenant? same)
  have waiting : (told.afterUse now (.mark row.id .paused)).pool.waiting = scene.pool.waiting :=
    (Pool.perform_waiting told.pool (.mark row.id .paused) now rfl).trans
      (congrArg Pool.waiting same)
  refine (tearDown_isolated marked fun other found => ?_).seq ?_
  · -- The mark has left the tenants as they were.
    obtain ⟨session, served⟩ := tenant?_of_heldBy marked.sound
      (heldBy_of_holder? marked.sound found)
    exact heldBy_of_tenant? sound ((congrFun tenants other.id).symm.trans served)
  · rintro freed torn ⟨left, unchanged, hosts⟩
    have hosted (projectId : String) (held : torn.pool.Hosts projectId) :
        scene.pool.Hosts projectId := (Pool.hosts_of_still tenants).mp (hosts projectId held)
    have nothing := unchanged.trans waiting
    apply serve_and_report_isolated
    · rfl
    · exact fun _ => rfl
    · exact serveAfter_isolated sound left freed (thinned_of_kept nothing) (fun _ => nothing) hosted

theorem Taken.step_of_exchange? {taken : Taken} {exchange : Exchange}
    (shown : taken.exchange? = some exchange) : taken.step = .call exchange.call := by
  obtain ⟨found, now, step, answer⟩ := taken
  cases step with
  | readClock => contradiction
  | usePool op => contradiction
  | call call =>
      obtain rfl : (⟨call, answer⟩ : Exchange) = exchange := Option.some.inj shown
      rfl

/-- A slot is set up only after it was claimed. -/
theorem AllFounded.claimed_of_assign {trail : Trail} {assignment : Assignment}
    (founded : AllFounded trail.strides)
    (called : .assign slot assignment ∈ trail.exchanges.map (·.call)) :
    .claim slot assignment.projectId ∈ trail.bookings := by
  obtain ⟨exchange, made, same⟩ := List.mem_map.mp called
  obtain ⟨stride, member, shown⟩ := List.mem_filterMap.mp made
  obtain ⟨front, back, split⟩ := List.append_of_mem member
  have rests := founded front stride back split
  have assigns : stride.step = .call (.assign slot assignment) :=
    same ▸ Taken.step_of_exchange? shown
  rw [assigns] at rests
  obtain ⟨finding, since, custody, booked⟩ := rests
  obtain ⟨earlier, rfl⟩ := custody.split
  exact List.mem_filterMap.mpr ⟨finding, by simp [split], booked⟩

theorem handle_isolated (brokerUrl : String) (event : Event) (sound : scene.pool.Sound)
    (isolated : Isolated scene.pool event.payload.projectId none scene) :
    Ensures (Handling scene.pool event.payload.projectId) (handle brokerUrl event) scene := by
  unfold handle
  split
  · exact create_isolated isolated rfl
  · exact (release_isolated sound isolated).map
  · exact (pause_isolated sound isolated).map
  · exact .pure ⟨isolated, thinned_of_kept rfl⟩

/-- When an event is handled with no other caller in between, whatever the clock reads and the
collaborators answer, the slots of other projects stay exactly as they are. The provisioner is asked
to clear only a slot that the project held, and to set up only slots that were claimed on the way,
for the project or for the guest, and that nobody else had held. Reports are on the project and
on the guest alone. A request leaves the queue only if it is the project's or the guest's, or if its
project held a slot and it stood before the guest's, if there is a guest. -/
theorem handling_concerns_few (pool : Pool) (sound : pool.Sound) (around : Surroundings)
    (brokerUrl : String) (event : Event) :
    let own := event.payload.projectId
    let ended := (Trail.start pool).run (.nobody around) (handle brokerUrl event)
    let guest := guestOf ended.1
    let calls := ended.2.exchanges.map (·.call)
    (∀ slot row other, pool.slot? slot = some row → row.holds other = true → other ≠ own →
      ended.2.pool.slot? slot = some row) ∧
    (∀ slot projectId, .release slot projectId ∈ calls →
      projectId = own ∧ HeldBy pool slot own) ∧
    (∀ slot assignment, .assign slot assignment ∈ calls →
      .claim slot assignment.projectId ∈ ended.2.bookings ∧
      (assignment.projectId = own ∨ guest = some (slot, assignment.projectId)) ∧
      ∀ other, HeldBy pool slot other → other = own) ∧
    (∀ report, .publish report ∈ calls →
      report.projectId = own ∨ guest.map (·.2) = some report.projectId) ∧
    (∀ front request back, pool.waiting = front ++ request :: back →
      request ∉ ended.2.pool.waiting →
      request.projectId = own ∨ guest.map (·.2) = some request.projectId ∨
        (pool.Hosts request.projectId ∧ ∀ slot projectId, guest = some (slot, projectId) →
          ∃ other ∈ back, other.projectId = projectId)) := by
  intro own ended guest calls
  have isolated : Isolated (Trail.start pool).scene.pool own none (Trail.start pool).scene :=
    ⟨⟨sound, fun _ _ outsider => outsider.1⟩, by simp [Trail.scene, Trail.exchanges, Trail.all,
      Trail.start]⟩
  have handling := (handle_isolated brokerUrl event sound isolated).run around
  rw [run_nobody around (Trail.start pool) (handle brokerUrl event)] at handling
  obtain ⟨kept, thinned⟩ : Handling pool own ended.1 ended.2.scene := handling
  have nothing : AllFounded (Trail.start pool).strides := allFounded_nil
  have founded : AllFounded ended.2.strides :=
    ((handle_founded nothing event).run (.nobody around)).1
  have concerns (call : Call) (member : call ∈ calls) : call.Concerns pool own guest := by
    obtain ⟨exchange, made, rfl⟩ := List.mem_map.mp member
    exact kept.calls exchange made
  refine ⟨?_, ?_, ?_, ?_, thinned⟩
  · intro slot row other found held different
    exact kept.rows slot row ⟨found, other, held, different⟩
  · intro slot projectId member
    exact concerns _ member
  · intro slot assignment member
    obtain ⟨party, room⟩ := concerns _ member
    refine ⟨founded.claimed_of_assign member, party, ?_⟩
    · intro other held
      obtain ⟨row, here, rfl, holds⟩ := held
      by_contra different
      exact room row ⟨(Pool.slot?_eq_some_iff sound).mpr ⟨here, rfl⟩, other, holds, different⟩
  · intro report member
    exact concerns _ member

/-- Two projects hold a slot each and a third one waits. -/
def threeProjects : Pool :=
  (Pool.create 2 1 0).run [⟨0, 0, .claim ⟨1⟩ "first" "session"⟩,
    ⟨0, 0, .claim ⟨2⟩ "second" "session"⟩, ⟨0, 0, .enqueue ⟨"third", "", "", "session", "", "", 0⟩⟩]

/-- The first project is released, and the third one cannot be set up in its slot. The second one
notices nothing of either. -/
theorem bystander_notices_nothing :
    let around : Surroundings := {
      reading := fun _ => 1
      answer := fun _ => fun
        | .publish _ | .release _ _ => .ok ()
        | .assign _ _ => .error (.api "down")
        | .lookUpToken _ => .ok "" }
    let event : Event := {
      kind := .releaseRequested, timestamp := default
      payload := { Payload.blank with projectId := "first", sessionId := "session" } }
    let ended := (Trail.start threeProjects).run (.nobody around) (handle "" event)
    threeProjects.Sound ∧ guestOf ended.1 = some (⟨1⟩, "third") ∧
      ended.2.pool.slot? ⟨2⟩ = some ⟨⟨2⟩, "second", "session", true, .running, 0⟩ := by
  intro around event ended
  have sound : threeProjects.Sound := (Pool.create_sound 2 1 0).run _
  refine ⟨sound, by decide +kernel, ?_⟩
  exact (handling_concerns_few threeProjects sound around "" event).1 ⟨2⟩ _ "second"
    (by decide +kernel) (by decide +kernel) (by decide +kernel)

end WorkspacePool.Workflow
