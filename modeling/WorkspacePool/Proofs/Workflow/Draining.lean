import WorkspacePool.Proofs.Pool.Serving
import WorkspacePool.Proofs.Workflow.Redelivery
import WorkspacePool.Proofs.Workflow.Undoing

/-!
Serving the queue to its end. One call serves one request: it is handed the lowest free slot, and
gives it back when its workspace cannot be set up. `Serves` and `Rests` say what one call does,
`Drains` how the calls follow each other until one of them rests, and what the whole of them comes
to is read off it by induction.
-/

namespace WorkspacePool

namespace Pool

variable {pool after : Pool} {row : Slot} {projectId sessionId : String} {now : Millis}

/-- A project that was given a free slot and is freed leaves the slot free. -/
theorem free_occupied (sound : after.Sound) (named : projectId ≠ "")
    (replaced : Replaced row (row.occupy projectId sessionId now) pool.slots after.slots)
    (later : Millis) : ∃ slots, Replaced row (row.clear later) pool.slots slots ∧
      (after.free projectId later).2 = { after with slots } := by
  have held : (row.occupy projectId sessionId now).holds projectId = true := by
    simp [Slot.holds, Slot.occupy, named]
  have found : after.holder? projectId = some (row.occupy projectId sessionId now) :=
    (holder?_eq_some_iff sound).mpr ⟨replaced.new_mem, held⟩
  exact ⟨_, Sound.replaced_twice sound replaced (updateFirst_replaced (·.clear later) found),
    by simp [Pool.free, found]⟩

end Pool

namespace Workflow

variable {around : Surroundings} {scene : Scene} {brokerUrl : String} {slot : SlotId}
  {request : Request} {failing : Set String}

/-! ### Calls in the log -/

/-- What an exchange asked the provisioner to set up. -/
def Exchange.assign? : Exchange → Option (SlotId × Assignment)
  | ⟨.assign slot assignment, _⟩ => some (slot, assignment)
  | _ => none

namespace Scene

def assigns (scene : Scene) : List (SlotId × Assignment) :=
  scene.exchanges.filterMap (·.assign?)

/-- The statuses that were reported on a project, whether or not they could be published. -/
def statuses (scene : Scene) (projectId : String) : List WorkspaceStatus :=
  (scene.reports.filter (·.projectId == projectId)).map (·.status)

/-- What calls add to the log: what was to be set up, and the statuses reported on one project. -/
structure Logs (scene : Scene) (assigns : List (SlotId × Assignment)) (projectId : String)
    (statuses : List WorkspaceStatus) (after : Scene) : Prop where
  assigns : after.assigns = scene.assigns ++ assigns
  own : after.statuses projectId = scene.statuses projectId ++ statuses
  others : ∀ other, other ≠ projectId → after.statuses other = scene.statuses other

section Logs

variable {after last : Scene} {projectId : String}

theorem logs_nothing (same : after.exchanges = scene.exchanges) :
    scene.Logs [] projectId [] after := by
  have reports : after.reports = scene.reports := by simp [Scene.reports, same]
  exact ⟨by simp [Scene.assigns, same], by simp [Scene.statuses, reports],
    fun other _ => by simp [Scene.statuses, reports]⟩

theorem logs_publish (report : Report) (answer : (Call.publish report).Answer) :
    scene.Logs [] report.projectId [report.status]
      (scene.afterCall ⟨.publish report, answer⟩) := by
  refine ⟨by simp [Scene.assigns, Scene.afterCall, Exchange.assign?], ?_, fun other different => ?_⟩
  · simp [Scene.statuses, reports_afterCall, Exchange.report?]
  · simp [Scene.statuses, reports_afterCall, Exchange.report?, Ne.symm different]

theorem logs_assign (slot : SlotId) (assignment : Assignment)
    (answer : (Call.assign slot assignment).Answer) (projectId : String) :
    scene.Logs [(slot, assignment)] projectId []
      (scene.afterCall ⟨.assign slot assignment, answer⟩) := by
  refine ⟨by simp [Scene.assigns, Scene.afterCall, Exchange.assign?], ?_, fun other _ => ?_⟩
  · simp [Scene.statuses, reports_afterCall, Exchange.report?]
  · simp [Scene.statuses, reports_afterCall, Exchange.report?]

theorem Logs.trans {first second : List (SlotId × Assignment)}
    {earlier later : List WorkspaceStatus} (before : scene.Logs first projectId earlier after)
    (behind : after.Logs second projectId later last) :
    scene.Logs (first ++ second) projectId (earlier ++ later) last :=
  ⟨by rw [behind.assigns, before.assigns, List.append_assoc],
    by rw [behind.own, before.own, List.append_assoc],
    fun other different => (behind.others other different).trans (before.others other different)⟩

end Logs

end Scene

/-! ### One call -/

section Rules

variable {α : Type} {goal : α → Scene → Prop}

theorem Attains.useNow {op : PoolOp} {next : op.Reply → Steps α}
    (attains : Attains around goal (next (scene.pool.perform (around.reading scene.moment) op).1)
      (scene.afterUse (around.reading scene.moment) op)) :
    Attains around goal (Steps.usePool op >>= next) scene := attains

theorem Attains.call {call : Call} {next : call.Answer → Steps α}
    (attains : Attains around goal (next (around.answer scene.moment call))
      (scene.afterCall ⟨call, around.answer scene.moment call⟩)) :
    Attains around goal (Steps.call call >>= next) scene := attains

end Rules

/-- Setting up a workspace fails for the projects of a set, and for no others. -/
def Surroundings.FailFor (around : Surroundings) (failing : Set String) : Prop :=
  ∀ moment slot assignment, (around.answer moment (.assign slot assignment)).isOk = true ↔
    assignment.projectId ∉ failing

theorem notify_logs (report : Report) :
    Ensures (fun _ after => after.pool = scene.pool ∧
      scene.Logs [] report.projectId [report.status] after) (notify report) scene :=
  .call fun answer => .pure ⟨rfl, Scene.logs_publish report answer⟩

/-- What is logged, and what becomes of the slot, when a claimed slot is set up. -/
theorem provision_logs (fails : around.FailFor failing) :
    Attains around (fun result after =>
      (result = .ok () ∧ request.projectId ∉ failing ∧ after.pool = scene.pool ∧
        scene.Logs [(slot, .ofRequest request brokerUrl)] request.projectId
          [.provisioning, .running] after) ∨
      ∃ reason later, result = .error reason ∧ request.projectId ∈ failing ∧
        after.pool = (scene.pool.free request.projectId later).2 ∧
        scene.Logs [(slot, .ofRequest request brokerUrl)] request.projectId [.provisioning] after)
      (provision brokerUrl slot request) scene := by
  unfold provision
  refine .seq (notify_logs _) ?_
  rintro _ told ⟨same, first⟩
  refine .call ?_
  have decides := fails told.moment slot (.ofRequest request brokerUrl)
  have second := first.trans (Scene.logs_assign slot (.ofRequest request brokerUrl)
    (around.answer told.moment (.assign slot (.ofRequest request brokerUrl))) _)
  cases answer : around.answer told.moment (.assign slot (.ofRequest request brokerUrl)) with
  | ok done =>
      rw [answer] at decides second
      refine .seq (notify_logs _) ?_
      rintro _ ended ⟨still, third⟩
      exact .pure (.inl ⟨rfl, decides.mp rfl, still.trans same, second.trans third⟩)
  | error reason =>
      rw [answer] at decides second
      refine .useNow (.pure (.inr ⟨_, around.reading (told.moment + 1), rfl, ?_, ?_, ?_⟩))
      · by_contra works
        exact absurd (decides.mpr works) Bool.false_ne_true
      · rw [← same]
        rfl
      · exact second.trans (Scene.logs_nothing rfl)

/-- What a call that serves a request does: which requests it skips, whom it serves in which slot,
and whether setting up the workspace failed. -/
structure Serving where
  skipped : List Request
  request : Request
  slot : SlotId
  failed : Bool

namespace Serving

def result (serving : Serving) : Served :=
  if serving.failed then .failed serving.slot serving.request.projectId
  else .provisioned serving.slot serving.request.projectId

def statuses (serving : Serving) : List WorkspaceStatus :=
  [.provisioning, if serving.failed then .failed else .running]

/-- The requests that the call takes out of the queue. -/
def taken (serving : Serving) : List Request := serving.skipped ++ [serving.request]

/-- What the provisioner is asked to set up. -/
def order (brokerUrl : String) (serving : Serving) : SlotId × Assignment :=
  (serving.slot, .ofRequest serving.request brokerUrl)

end Serving

/-- The slot row that a served request leaves behind: its own, or a free one. -/
def Serving.Leaves (serving : Serving) (free new : Slot) : Prop :=
  if serving.failed then ∃ later, new = free.clear later
  else ∃ now, new = free.occupy serving.request.projectId serving.request.sessionId now

variable {serving : Serving} {after : Scene}

/-- A call serves a request. -/
structure Serves (around : Surroundings) (brokerUrl : String) (failing : Set String) (scene : Scene)
    (serving : Serving) (after : Scene) : Prop where
  run : scene.run around (serveQueue brokerUrl) = (serving.result, after)
  failed : serving.failed = true ↔ serving.request.projectId ∈ failing
  queue : scene.pool.waiting = serving.taken ++ after.pool.waiting
  skipped : ∀ other ∈ serving.skipped, scene.pool.seated other = true
  unseated : scene.pool.seated serving.request = false
  row : ∃ free new, free.id = serving.slot ∧ scene.pool.LowestFree free ∧
    Pool.Replaced free new scene.pool.slots after.pool.slots ∧ serving.Leaves free new
  logs : scene.Logs [serving.order brokerUrl] serving.request.projectId serving.statuses after

/-- A call finds nobody to serve. It drops all who wait, as they are seated already, or finds no
slot free. -/
structure Idles (around : Surroundings) (brokerUrl : String) (scene : Scene)
    (dropped : List Request) (after : Scene) : Prop where
  run : scene.run around (serveQueue brokerUrl) = (.idle, after)
  queue : scene.pool.waiting = dropped ++ after.pool.waiting
  seated : ∀ other ∈ dropped, scene.pool.seated other = true
  ended : (dropped = [] ∧ ∀ slot ∈ after.pool.slots, slot.isBusy = true) ∨ after.pool.waiting = []
  slots : after.pool.slots = scene.pool.slots
  exchanges : after.exchanges = scene.exchanges

theorem serveQueue_idles {left : Pool}
    (result : scene.pool.claimNext (around.reading scene.moment) = (none, left)) :
    scene.run around (serveQueue brokerUrl) =
      (.idle, ⟨left, scene.exchanges, scene.moment + 1⟩) := by
  have attains : Attains around (fun result after =>
      result = .idle ∧ after = ⟨left, scene.exchanges, scene.moment + 1⟩)
      (serveQueue brokerUrl) scene := by
    refine .useNow ?_
    simp only [Pool.perform, Scene.afterUse, result]
    exact .pure ⟨rfl, rfl⟩
  exact Prod.ext attains.1 attains.2

/-- How a call goes that was handed a slot and a request. -/
theorem serveQueue_serves (fails : around.FailFor failing) (brokerUrl : String)
    {skipped later : List Request} {free : Slot} {slots : List Slot} {now : Millis}
    (named : request.projectId ≠ "")
    (sound : Pool.Sound { scene.pool with slots, waiting := later })
    (replaced : Pool.Replaced free (free.occupy request.projectId request.sessionId now)
      scene.pool.slots slots)
    (result : scene.pool.claimNext (around.reading scene.moment) =
      (some (free.id, request), { scene.pool with slots, waiting := later })) :
    Attains around (fun result after => ∃ failed : Bool,
      let serving : Serving := ⟨skipped, request, free.id, failed⟩
      result = serving.result ∧ (failed = true ↔ request.projectId ∈ failing) ∧
      after.pool.waiting = later ∧
      (∃ new, Pool.Replaced free new scene.pool.slots after.pool.slots ∧
        serving.Leaves free new) ∧
      scene.Logs [serving.order brokerUrl] request.projectId serving.statuses after)
      (serveQueue brokerUrl) scene := by
  refine .useNow ?_
  simp only [Pool.perform, Scene.afterUse, result]
  refine .bind ((provision_logs fails).mono ?_)
  have begun := @Scene.logs_nothing scene
    ⟨{ scene.pool with slots, waiting := later }, scene.exchanges, scene.moment + 1⟩
    request.projectId rfl
  rintro _ settled (⟨rfl, works, same, logs⟩ | ⟨reason, freed, rfl, broken, same, logs⟩)
  · refine .pure ⟨false, rfl, by simp [works], ?_, ⟨_, ?_, now, rfl⟩, begun.trans logs⟩
    · rw [same]
    · rw [same]
      exact replaced
  · obtain ⟨again, restored, left⟩ := Pool.free_occupied sound named replaced freed
    refine .seq (notify_logs _) ?_
    rintro _ told ⟨kept, last⟩
    have pool : told.pool = { scene.pool with slots := again, waiting := later } :=
      kept.trans (same.trans left)
    refine .pure ⟨true, rfl, by simp [broken], ?_, ⟨_, ?_, freed, rfl⟩,
      (begun.trans logs).trans last⟩
    · rw [pool]
    · rw [pool]
      exact restored

theorem serveQueue_cases (sound : scene.pool.Sound) (fails : around.FailFor failing)
    (brokerUrl : String) :
    (∃ dropped after, Idles around brokerUrl scene dropped after) ∨
      ∃ serving after, Serves around brokerUrl failing scene serving after := by
  rcases Pool.claimFor_cases sound (around.reading scene.moment) scene.pool.waiting with
    ⟨full, result⟩ | ⟨held, result⟩ |
    ⟨skipped, request, later, free, slots, queue, held, unheld, first, -, replaced, result⟩
  · exact .inl ⟨[], _, serveQueue_idles result, rfl, by simp,
      .inl ⟨rfl, Pool.firstFree?_eq_none_iff.mp full⟩, rfl, rfl⟩
  · simp only [Pool.isSome_holder?] at held
    exact .inl ⟨_, _, serveQueue_idles result, (List.append_nil _).symm, held, .inr rfl, rfl, rfl⟩
  · simp only [Pool.isSome_holder?] at held
    have unseated : scene.pool.seated request = false := by rw [← Pool.isSome_holder?, unheld]; rfl
    have named := sound.named request (by simp [queue])
    obtain ⟨other, same, lowest⟩ := sound.lowestFree_of_firstFree? first
    obtain rfl := sound.same_row lowest.member replaced.old_mem same
    have soundClaimed : Pool.Sound { scene.pool with slots, waiting := later } :=
      (sound.occupy named unheld replaced).keep (by simp [queue])
    obtain ⟨failed, served, decided, waiting, ⟨new, row, leaves⟩, logs⟩ :=
      serveQueue_serves fails brokerUrl named soundClaimed replaced result
    refine .inr ⟨⟨skipped, request, other.id, failed⟩, _, Prod.ext served rfl, decided, ?_, held,
      unseated, ⟨other, new, rfl, lowest, row, leaves⟩, logs⟩
    rw [waiting, queue]
    simp [Serving.taken]

/-- Whatever an operation does, the pool stays sound. -/
theorem ensures_sound {α : Type} {steps : Steps α} (sound : scene.pool.Sound) :
    Ensures (fun _ after => after.pool.Sound) steps scene := by
  induction steps generalizing scene with
  | done result => exact sound
  | ask step next ih =>
      cases step with
      | readClock => exact fun now => ih _ sound
      | usePool op => exact fun now => ih _ ((Pool.perform_effect sound now op).sound sound)
      | call call => exact fun answer => ih _ sound

theorem sound_of_run {α : Type} {steps : Steps α} {result : α} (sound : scene.pool.Sound)
    (run : scene.run around steps = (result, after)) : after.pool.Sound := by
  have kept : Ensures (fun _ after => after.pool.Sound) steps scene := ensures_sound sound
  have ended := kept.run around
  rwa [run] at ended

/-- Only who was served, and set up, can hold the slot. -/
theorem Serving.Leaves.holder {projectId : String} {free new : Slot}
    (leaves : serving.Leaves free new) (holds : new.holds projectId = true) :
    serving.failed = false ∧ serving.request.projectId = projectId := by
  unfold Serving.Leaves at leaves
  split at leaves
  · obtain ⟨later, rfl⟩ := leaves
    contradiction
  next works =>
    obtain ⟨now, rfl⟩ := leaves
    exact ⟨by simpa using works, (Slot.holds_iff.mp holds).2.2⟩

namespace Serves

variable {projectId : String} (serves : Serves around brokerUrl failing scene serving after)

include serves

theorem sound (sound : scene.pool.Sound) : after.pool.Sound :=
  sound_of_run sound serves.run

theorem split : scene.pool.waiting =
    serving.skipped ++ serving.request :: after.pool.waiting := by
  rw [serves.queue, Serving.taken, List.append_assoc]
  rfl

theorem shorter : after.pool.waiting.length < scene.pool.waiting.length := by
  rw [serves.split]
  simp only [List.length_append, List.length_cons]
  omega

theorem named (sound : scene.pool.Sound) : serving.request.projectId ≠ "" :=
  sound.named _ (by simp [serves.split])

/-- Nobody else waits for the project that is served. -/
theorem apart (sound : scene.pool.Sound) :
    ∀ other ∈ after.pool.waiting, other.projectId ≠ serving.request.projectId :=
  (sound.other_projects serves.split).2

theorem row_kept {row : Slot} (member : row ∈ scene.pool.slots) (busy : row.isBusy = true) :
    row ∈ after.pool.slots := by
  obtain ⟨free, new, -, lowest, ⟨front, back, before, behind⟩, -⟩ := serves.row
  rw [before, List.mem_append, List.mem_cons] at member
  rw [behind, List.mem_append, List.mem_cons]
  rcases member with inFront | rfl | inBack
  · exact .inl inFront
  · simp [lowest.free] at busy
  · exact .inr (.inr inBack)

theorem unheld : ∀ row ∈ scene.pool.slots, row.holds serving.request.projectId = false := by
  simpa [Pool.seated] using serves.unseated

/-- Who is not served, or cannot be set up, gets no slot. -/
theorem unheld_kept (unserved : serving.failed = true ∨ projectId ≠ serving.request.projectId)
    (unheld : ∀ row ∈ scene.pool.slots, row.holds projectId = false) :
    ∀ row ∈ after.pool.slots, row.holds projectId = false := by
  obtain ⟨free, new, -, -, replaced, leaves⟩ := serves.row
  intro row member
  rcases replaced.mem_cases member with rfl | earlier
  · by_contra holds
    obtain ⟨works, own⟩ := leaves.holder (by simpa using holds)
    rcases unserved with failed | other
    · rw [works] at failed
      contradiction
    · exact other own.symm
  · exact unheld row earlier

/-- Who was set up runs in the slot. -/
theorem runs_of_works (sound : scene.pool.Sound) (works : serving.failed = false) :
    ∃ row ∈ after.pool.slots, row.id = serving.slot ∧
      row.holds serving.request.projectId = true ∧
      row.sessionId = serving.request.sessionId ∧ row.status = .running := by
  obtain ⟨free, new, number, -, replaced, leaves⟩ := serves.row
  simp only [Serving.Leaves, works, Bool.false_eq_true, if_false] at leaves
  obtain ⟨now, rfl⟩ := leaves
  refine ⟨_, replaced.new_mem, number, ?_, rfl, rfl⟩
  simp [Slot.holds, Slot.occupy, serves.named sound]

end Serves

/-! ### All calls -/

/-- Call again and again until a call is idle, so many times at most. -/
def Scene.drain (around : Surroundings) (brokerUrl : String) :
    Nat → Scene → List Served × Scene
  | 0, scene => ([], scene)
  | limit + 1, scene =>
      match scene.run around (serveQueue brokerUrl) with
      | (.idle, after) => ([.idle], after)
      | (served, after) =>
          (served :: (after.drain around brokerUrl limit).1,
            (after.drain around brokerUrl limit).2)

theorem Serves.drain_succ (serves : Serves around brokerUrl failing scene serving after)
    (limit : Nat) : scene.drain around brokerUrl (limit + 1) =
      (serving.result :: (after.drain around brokerUrl limit).1,
        (after.drain around brokerUrl limit).2) := by
  rw [Scene.drain, serves.run]
  cases failed : serving.failed <;> simp [Serving.result, failed]

/-- How calls follow each other until one of them is idle: whom they serve, who is dropped by the
idle one, and where it all ends. -/
inductive Drains (around : Surroundings) (brokerUrl : String) (failing : Set String) :
    Scene → List Serving → List Request → Scene → Prop where
  | idle {scene final : Scene} {dropped : List Request}
      (idles : Idles around brokerUrl scene dropped final) :
      Drains around brokerUrl failing scene [] dropped final
  | serve {scene next final : Scene} {serving : Serving} {servings : List Serving}
      {dropped : List Request} (serves : Serves around brokerUrl failing scene serving next)
      (later : Drains around brokerUrl failing next servings dropped final) :
      Drains around brokerUrl failing scene (serving :: servings) dropped final

theorem exists_drains (sound : scene.pool.Sound) (fails : around.FailFor failing)
    (brokerUrl : String) : ∃ servings dropped final,
      Drains around brokerUrl failing scene servings dropped final := by
  induction size : scene.pool.waiting.length using Nat.strong_induction_on generalizing scene with
  | _ length ih =>
      subst size
      rcases serveQueue_cases sound fails brokerUrl with
        ⟨dropped, after, idles⟩ | ⟨serving, next, serves⟩
      · exact ⟨[], dropped, after, .idle idles⟩
      · -- A call that serves somebody leaves fewer who wait.
        obtain ⟨servings, dropped, final, later⟩ :=
          ih _ serves.shorter (serves.sound sound) rfl
        exact ⟨serving :: servings, dropped, final, .serve serves later⟩

namespace Drains

variable {projectId : String} {servings earlier later : List Serving} {dropped : List Request}
  {final : Scene}

/-- So many calls and one more are enough to come to the idle one. -/
theorem drain_eq (drains : Drains around brokerUrl failing scene servings dropped final)
    {limit : Nat} (enough : servings.length < limit) :
    scene.drain around brokerUrl limit = (servings.map (·.result) ++ [.idle], final) := by
  induction drains generalizing limit with
  | idle idles =>
      obtain ⟨limit, rfl⟩ := Nat.exists_eq_add_one.mpr enough
      simp [Scene.drain, idles.run]
  | @serve scene next final serving servings dropped serves later ih =>
      obtain ⟨limit, rfl⟩ := Nat.exists_eq_add_one.mpr (Nat.zero_lt_of_lt enough)
      simp [serves.drain_succ, ih (Nat.lt_of_succ_lt_succ enough)]

/-- What the calls find and leave at one of them. -/
theorem at_serving (drains : Drains around brokerUrl failing scene servings dropped final)
    (split : servings = earlier ++ serving :: later) :
    Serves around brokerUrl failing (scene.drain around brokerUrl earlier.length).2 serving
      (scene.drain around brokerUrl (earlier.length + 1)).2 := by
  induction earlier generalizing scene servings with
  | nil =>
      subst split
      cases drains with
      | serve serves later =>
          rw [List.length_nil, serves.drain_succ]
          exact serves
  | cons first rest ih =>
      subst split
      cases drains with
      | serve serves later =>
          rw [List.length_cons, serves.drain_succ, serves.drain_succ]
          exact ih later rfl

theorem queue (drains : Drains around brokerUrl failing scene servings dropped final) :
    scene.pool.waiting =
      servings.flatMap (·.taken) ++ (dropped ++ final.pool.waiting) := by
  induction drains with
  | idle idles => exact idles.queue
  | serve serves later ih => rw [serves.queue, ih, List.flatMap_cons, List.append_assoc]

theorem length_le (drains : Drains around brokerUrl failing scene servings dropped final) :
    servings.length ≤ scene.pool.waiting.length := by
  induction drains with
  | idle => exact Nat.zero_le _
  | serve serves later ih => exact Nat.succ_le_of_lt (Nat.lt_of_le_of_lt ih serves.shorter)

theorem assigns (drains : Drains around brokerUrl failing scene servings dropped final) :
    final.assigns = scene.assigns ++ servings.map (·.order brokerUrl) := by
  induction drains with
  | idle idles => simp [Scene.assigns, idles.exchanges]
  | serve serves later ih => simp [ih, serves.logs.assigns]

theorem ended (drains : Drains around brokerUrl failing scene servings dropped final) :
    (∀ other ∈ dropped, final.pool.seated other = true) ∧
      ((dropped = [] ∧ ∀ slot ∈ final.pool.slots, slot.isBusy = true) ∨
        final.pool.waiting = []) := by
  induction drains with
  | idle idles =>
      refine ⟨fun other member => ?_, idles.ended⟩
      simpa [Pool.seated, idles.slots] using idles.seated other member
  | serve serves later ih => exact ih

theorem sound (drains : Drains around brokerUrl failing scene servings dropped final)
    (sound : scene.pool.Sound) : final.pool.Sound := by
  induction drains with
  | idle idles => exact sound_of_run sound idles.run
  | serve serves later ih => exact ih (serves.sound sound)

theorem row_kept (drains : Drains around brokerUrl failing scene servings dropped final)
    {row : Slot} (member : row ∈ scene.pool.slots) (busy : row.isBusy = true) :
    row ∈ final.pool.slots := by
  induction drains with
  | idle idles => rwa [idles.slots]
  | serve serves later ih => exact ih (serves.row_kept member busy)

/-- On who does not wait nothing is reported, and who holds no slot gets none without waiting. -/
theorem unqueued (drains : Drains around brokerUrl failing scene servings dropped final)
    (absent : ∀ request ∈ scene.pool.waiting, request.projectId ≠ projectId) :
    final.statuses projectId = scene.statuses projectId ∧
      ((∀ row ∈ scene.pool.slots, row.holds projectId = false) →
        ∀ row ∈ final.pool.slots, row.holds projectId = false) := by
  induction drains with
  | idle idles =>
      refine ⟨by simp [Scene.statuses, Scene.reports, idles.exchanges], ?_⟩
      rw [idles.slots]
      exact id
  | @serve scene next final serving servings dropped serves later ih =>
      have other : projectId ≠ serving.request.projectId :=
        Ne.symm (absent _ (by simp [serves.split]))
      obtain ⟨statuses, unheld⟩ := ih fun request member =>
        absent request (by simp [serves.split, member])
      exact ⟨statuses.trans (serves.logs.others projectId other),
        fun none => unheld (serves.unheld_kept (.inr other) none)⟩

/-- What becomes of who is served. -/
theorem outcome (drains : Drains around brokerUrl failing scene servings dropped final)
    (sound : scene.pool.Sound) (member : serving ∈ servings) :
    (serving.failed = true ↔ serving.request.projectId ∈ failing) ∧
    (∀ other ∈ final.pool.waiting, other.projectId ≠ serving.request.projectId) ∧
    final.statuses serving.request.projectId =
      scene.statuses serving.request.projectId ++ serving.statuses ∧
    if serving.failed then ∀ row ∈ final.pool.slots, row.holds serving.request.projectId = false
    else final.pool.Seats serving.slot serving.request.projectId serving.request.sessionId := by
  induction drains with
  | idle => simp at member
  | @serve scene next final first servings dropped serves later ih =>
      have soundNext := serves.sound sound
      have apart := serves.apart sound
      rcases List.mem_cons.mp member with rfl | behind
      · -- The queue names no project twice, so that the later calls are about others.
        obtain ⟨statuses, unheld⟩ := later.unqueued apart
        refine ⟨serves.failed, fun other member => apart other ?_, ?_, ?_⟩
        · rw [later.queue]
          exact List.mem_append_right _ (List.mem_append_right _ member)
        · rw [statuses, serves.logs.own]
        · cases failed : serving.failed with
          | true => exact unheld (serves.unheld_kept (.inl failed) serves.unheld)
          | false =>
              obtain ⟨row, here, number, holds, session, running⟩ :=
                serves.runs_of_works sound failed
              have kept := later.row_kept here (Slot.holds_iff.mp holds).1
              rw [← number, ← session]
              exact (later.sound soundNext).seats kept holds running
      · have waited : serving.request ∈ next.pool.waiting := by
          rw [later.queue]
          refine List.mem_append_left _ (List.mem_flatMap.mpr ⟨serving, behind, ?_⟩)
          simp [Serving.taken]
        obtain ⟨decided, left, statuses, place⟩ := ih soundNext behind
        refine ⟨decided, left, ?_, place⟩
        rw [statuses, serves.logs.others _ (apart _ waited)]

end Drains

/-- Calling until a call is idle takes at most one call more than there are requests. The calls
serve the queue in order: each skips requests whose projects are seated when they come up, and sets
up the next one, and no other, in the lowest free slot. They stop when no slot is free, or when
nobody waits, and what then waits is the untouched rest of the queue. Whoever was served and could
not be set up holds no slot in the end and does not wait, and was reported to be provisioned and to
have failed; whoever else was served runs in the slot, and was reported to be provisioned and to
run. What was busy in the beginning is as it was. -/
theorem drain_serves_in_order (scene : Scene) (sound : scene.pool.Sound)
    (fails : around.FailFor failing) (brokerUrl : String) :
    ∃ (servings : List Serving) (dropped : List Request) (final : Scene),
      servings.length ≤ scene.pool.waiting.length ∧
      (∀ limit, servings.length < limit →
        scene.drain around brokerUrl limit = (servings.map (·.result) ++ [.idle], final)) ∧
      scene.pool.waiting = servings.flatMap (·.taken) ++ (dropped ++ final.pool.waiting) ∧
      (∀ other ∈ dropped, final.pool.seated other = true) ∧
      ((dropped = [] ∧ ∀ slot ∈ final.pool.slots, slot.isBusy = true) ∨
        final.pool.waiting = []) ∧
      final.assigns = scene.assigns ++ servings.map (·.order brokerUrl) ∧
      (∀ earlier serving later, servings = earlier ++ serving :: later →
        let before := (scene.drain around brokerUrl earlier.length).2
        let after := (scene.drain around brokerUrl (earlier.length + 1)).2
        (∀ other ∈ serving.skipped, before.pool.seated other = true) ∧
          before.pool.seated serving.request = false ∧
          (∃ free, free.id = serving.slot ∧ before.pool.LowestFree free) ∧
          after.assigns = before.assigns ++ [serving.order brokerUrl]) ∧
      (∀ serving ∈ servings, (serving.failed = true ↔ serving.request.projectId ∈ failing) ∧
        (∀ other ∈ final.pool.waiting, other.projectId ≠ serving.request.projectId) ∧
        final.statuses serving.request.projectId =
          scene.statuses serving.request.projectId ++
            [.provisioning, if serving.failed then .failed else .running] ∧
        if serving.failed then
          ∀ row ∈ final.pool.slots, row.holds serving.request.projectId = false
        else
          final.pool.Seats serving.slot serving.request.projectId serving.request.sessionId) ∧
      ∀ row ∈ scene.pool.slots, row.isBusy = true → final.pool.slot? row.id = some row := by
  obtain ⟨servings, dropped, final, drains⟩ := exists_drains sound fails brokerUrl
  refine ⟨servings, dropped, final, drains.length_le, fun limit => drains.drain_eq, drains.queue,
    drains.ended.1, drains.ended.2, drains.assigns, ?_,
    fun serving => drains.outcome sound, fun row member busy => ?_⟩
  · intro earlier serving later split
    have serves := drains.at_serving split
    obtain ⟨free, new, number, lowest, -⟩ := serves.row
    exact ⟨serves.skipped, serves.unseated, ⟨free, number, lowest⟩, serves.logs.assigns⟩
  · exact (Pool.slot?_eq_some_iff (drains.sound sound)).mpr ⟨drains.row_kept member busy, rfl⟩

/-- Four requests wait for one free slot. The first project is seated already, the second one cannot
be set up and makes room for the third, and the last one goes on waiting. -/
theorem failed_request_makes_room :
    let request (projectId : String) : Request := ⟨projectId, "", "", "session", "", "", 0⟩
    let pool := (Pool.create 2 4 0).run
      [⟨0, 0, .enqueue (request "seated")⟩, ⟨0, 0, .claim ⟨1⟩ "seated" "session"⟩,
        ⟨0, 0, .enqueue (request "broken")⟩, ⟨0, 0, .enqueue (request "works")⟩,
        ⟨0, 0, .enqueue (request "late")⟩]
    let around : Surroundings := {
      reading := fun _ => 1
      answer := fun _ => fun
        | .assign _ assignment =>
            if assignment.projectId = "broken" then .error (.api "down") else .ok ()
        | .publish _ | .release _ _ => .ok ()
        | .lookUpToken _ => .ok "" }
    let scene : Scene := ⟨pool, [], 0⟩
    scene.pool.Sound ∧ around.FailFor {"broken"} ∧
      (scene.drain around "" 5).1 =
        [.failed ⟨2⟩ "broken", .provisioned ⟨2⟩ "works", .idle] ∧
      ∃ (servings : List Serving) (final : Scene),
        scene.drain around "" 5 = (servings.map (·.result) ++ [.idle], final) ∧
        final.assigns = servings.map (·.order "") := by
  intro request pool around scene
  have sound : scene.pool.Sound := (Pool.create_sound 2 4 0).run _
  have fails : around.FailFor {"broken"} := by
    intro moment slot assignment
    by_cases broken : assignment.projectId = "broken" <;>
      simp [around, broken, Except.isOk, Except.toBool]
  obtain ⟨servings, dropped, final, few, calls, -, -, -, assigns, -⟩ :=
    drain_serves_in_order scene sound fails ""
  have waiting : scene.pool.waiting.length = 4 := by decide +kernel
  exact ⟨sound, fails, by decide +kernel, servings, final, calls 5 (by omega), assigns⟩

end Workflow

end WorkspacePool
