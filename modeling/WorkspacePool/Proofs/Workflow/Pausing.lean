import WorkspacePool.Proofs.Pool.Frame
import WorkspacePool.Proofs.Workflow.Freeing

/-!
What a pause does to slots. It marks the slot of its project paused and frees it, and may hand a
vacant slot to the head of the queue and take it back. It marks the slot by number, after the pause
was reported, so the mark hits another project's slot when others hand the slot on meanwhile.
-/

namespace WorkspacePool.Workflow

variable {start : Pool} {trail : Trail} {front back : List Stride} {altering : Stride}
  {slot : SlotId} {projectId brokerUrl : String}

/-! ### The steps of a pause -/

/-- A step that a pause of the project may take: nobody else's workspace is torn down and nobody
else is told to be paused, and of the pool's slots only those are changed that are paused, freed or
handed to the head of the queue. -/
def Step.pauses (projectId : String) : Step → Bool
  | .call (.release _ owner) => owner == projectId
  | .call (.publish report) => report.status != .pausing || report.projectId == projectId
  | .usePool (.claim _ _ _) | .usePool (.pauseIfHeld _ _) | .usePool (.touch _) => false
  | _ => true

theorem notify_pauses {report : Report} (other : report.status ≠ .pausing) :
    Confined (Step.pauses projectId) (notify report) :=
  .bind (.step (by simp [Step.pauses, other])) fun _ => .pure ()

theorem provision_pauses (request : Request) :
    Confined (Step.pauses projectId) (provision brokerUrl slot request) := by
  refine .bind (notify_pauses (by simp [reportOn])) fun _ => .bind (.step rfl) fun outcome => ?_
  cases outcome with
  | error reason => exact .bind (.step rfl) fun _ => .pure _
  | ok done => exact .bind (notify_pauses (by simp [reportOn])) fun _ => .pure _

theorem serveAfter_pauses (freed : Option SlotId) :
    Confined (Step.pauses projectId) (serveAfter brokerUrl freed) := by
  cases freed with
  | none => exact .pure _
  | some slot =>
      refine .bind (.step rfl) fun served => ?_
      cases served with
      | none => exact .pure _
      | some found =>
          refine .bind (provision_pauses found.2) fun result => ?_
          cases result with
          | ok done => exact .pure _
          | error reason => exact .bind (notify_pauses (by simp [reportOn])) fun _ => .pure _

theorem tearDown_pauses : Confined (Step.pauses projectId) (tearDown projectId) := by
  refine .bind (.step rfl) fun holder => ?_
  cases holder with
  | none => exact .pure _
  | some row =>
      refine .bind (.step (by simp [Step.pauses])) fun _ => .bind (.step rfl) fun freed => ?_
      cases freed with
      | ok slot => exact .pure _
      | error reason => exact .pure _

theorem pause_pauses (payload : Payload) :
    Confined (Step.pauses payload.projectId) (pause brokerUrl payload) := by
  refine .bind (.step rfl) fun holder => ?_
  cases holder with
  | none => exact .bind (notify_pauses (by simp [reportTo])) fun _ => .pure _
  | some row =>
      have told : Confined (Step.pauses payload.projectId)
          (notify (reportTo payload .pausing pausingMessage)) :=
        .bind (.step (by simp [Step.pauses, reportTo])) fun _ => .pure ()
      refine .bind told fun _ => .bind (.step rfl) fun _ => .bind tearDown_pauses fun freed => ?_
      refine .bind (serveAfter_pauses freed) fun served => ?_
      exact .bind (notify_pauses (by simp [reportTo])) fun _ => .pure _

theorem Confined.strides {α : Type} {kind : Step → Bool} {steps : Steps α}
    (confined : Confined kind steps) (company : Company) :
    ∀ stride ∈ ((Trail.start start).run company steps).2.strides, kind stride.step = true := by
  have kept : Withstands (fun _ after => ∀ stride ∈ after.strides, kind stride.step = true) steps
      (Trail.start start) := by
    refine confined.withstands ?_ (by simp [Trail.start])
    intro trail others now step answer fits before stride member
    cases List.mem_append.mp member with
    | inl earlier => exact before stride earlier
    | inr new =>
        rw [List.mem_singleton.mp new]
        exact fits
  exact kept.run company

/-! ### The slots that a step changes -/

namespace Taken

def target? : Taken → Option SlotId
  | ⟨_, _, .usePool op, reply⟩ => op.target? reply
  | _ => none

def Alters (taken : Taken) (slot : SlotId) : Prop :=
  taken.left.slot? slot ≠ taken.pool.slot? slot

theorem IsTold.target {taken : Taken} (told : taken.IsTold) (sound : taken.pool.Sound)
    (alters : taken.Alters slot) : taken.target? = some slot := by
  cases told with
  | look pool now => exact absurd rfl alters
  | use pool now op =>
      by_contra away
      exact alters (Pool.perform_frame sound now op away)
  | call pool now call answer => exact absurd rfl alters

end Taken

/-- How a step of a pause may change a slot. -/
inductive Alteration (projectId : String) (earlier : List Stride) (altering : Stride)
    (slot : SlotId) : Prop where
  /-- The slot is held by the project itself. -/
  | own (held : HeldBy altering.pool slot projectId)
  /-- The slot is vacant, and is handed to the head of the queue. -/
  | filled (claimant : String) (vacant : altering.pool.tenant? slot = none)
      (booked : altering.booking? = some (.claim slot claimant))
  /-- The slot is freed of the head of the queue, which could not be set up where the pause had
  claimed a slot for it. -/
  | emptied (claimant : String) (front : List Stride) (vacating : Stride) (place : SlotId)
      (split : earlier = front ++ [vacating]) (claimed : Claimed front place claimant)
      (booked : altering.booking? = some (.free slot claimant))
      (returned : Returned front vacating altering place slot claimant)
  /-- The slot held the project before the pause was reported, others have freed the project since,
  and the slot is marked paused all the same. -/
  | mismarked (front : List Stride) (lookup telling : Stride) (row : Slot)
      (split : earlier = front ++ [lookup, telling])
      (located : lookup.located? = some (slot, projectId))
      (reports : telling.ReportsPausing projectId)
      (freed : ∃ use ∈ othersIn [telling, altering], use.op = .free projectId)
      (marks : altering.step = .usePool (.mark slot .paused))
      (before : altering.pool.slot? slot = some row)
      (after : altering.left.slot? slot = some { row with status := .paused })

theorem Taken.IsTold.vacant_of_claimed {taken : Taken} {claimant : String} (told : taken.IsTold)
    (sound : taken.pool.Sound) (booked : taken.booking? = some (.claim slot claimant)) :
    taken.pool.tenant? slot = none := by
  have transfers := told.transfers sound
  rw [booked] at transfers
  exact transfers.1

theorem Taken.target_cases {taken : Taken} (allowed : taken.step.pauses projectId = true)
    (target : taken.target? = some slot) :
    (∃ claimant, taken.booking? = some (.claim slot claimant)) ∨
      (∃ leaver, taken.booking? = some (.free slot leaver)) ∨
      ∃ status, taken.step = .usePool (.mark slot status) := by
  obtain ⟨pool, now, step, answer⟩ := taken
  cases step with
  | readClock => contradiction
  | call call => contradiction
  | usePool op =>
      change op.target? answer = some slot at target
      cases op with
      | free leaver =>
          cases answer with
          | error reason => contradiction
          | ok freed =>
              obtain rfl : freed = slot := by simpa [PoolOp.target?] using target
              exact .inr (.inl ⟨leaver, rfl⟩)
      | claimNext =>
          cases answer with
          | none => contradiction
          | some served =>
              obtain rfl : served.1 = slot := by simpa [PoolOp.target?] using target
              exact .inl ⟨served.2.projectId, rfl⟩
      | mark place status =>
          cases answer with
          | error reason => contradiction
          | ok done =>
              obtain rfl : place = slot := by simpa [PoolOp.target?] using target
              exact .inr (.inr ⟨status, rfl⟩)
      | _ => contradiction

theorem Taken.IsTold.marked {taken : Taken} {status : SlotStatus} (told : taken.IsTold)
    (sound : taken.pool.Sound) (marks : taken.step = .usePool (.mark slot status))
    (target : taken.target? = some slot) :
    ∃ row, taken.pool.slot? slot = some row ∧ taken.left.slot? slot = some { row with status } := by
  cases told with
  | look pool now => contradiction
  | call pool now call answer => contradiction
  | use pool now op =>
      obtain rfl := Step.usePool.inj marks
      refine Pool.mark_slot? sound ?_
      cases marked : (pool.mark slot status).1 with
      | ok done => rfl
      | error reason => simp [target?, Pool.perform, marked, PoolOp.target?] at target

section Altered

variable (follows : trail.Follows start) (sound : start.Sound) (founded : AllFounded trail.strides)
  (allowed : ∀ stride ∈ trail.strides, stride.step.pauses projectId = true)
  (split : trail.strides = front ++ altering :: back)

include follows sound founded allowed split

theorem altered_by_free {leaver : String}
    (booked : altering.booking? = some (.free slot leaver)) :
    Alteration projectId front altering slot := by
  by_cases own : leaver = projectId
  · subst own
    have told := (follows.strides front altering back split).2
    have soundThere := follows.sound_at sound split
    obtain ⟨session, served⟩ := told.tenant?_of_freed soundThere booked
    exact .own (heldBy_of_tenant? soundThere served)
  · obtain ⟨earlier, vacating, place, rfl, returned⟩ :=
      follows.freesReturned sound founded front altering back slot leaver split booked
    have regrouped : trail.strides = earlier ++ vacating :: altering :: back := by simp [split]
    cases founded.vacated regrouped returned.vacated with
    | inr claimed => exact .emptied leaver earlier vacating place rfl claimed booked returned
    | inl torn =>
        -- A pause has nobody torn down but its own project.
        have spares := allowed vacating (by simp [regrouped])
        rw [torn.1] at spares
        exact absurd (by simpa [Step.pauses] using spares) own

theorem altered_by_mark {status : SlotStatus} (alters : altering.Alters slot)
    (marks : altering.step = .usePool (.mark slot status)) :
    Alteration projectId front altering slot := by
  have rests := founded front altering back split
  rw [marks] at rests
  obtain ⟨rfl, earlier, lookup, telling, owner, rfl, located, reports⟩ := rests
  obtain ⟨report, published, sameProject, pausing⟩ := reports
  have spares := allowed telling (by simp [split])
  rw [published] at spares
  obtain rfl : owner = projectId := by
    simpa [Step.pauses, pausing, sameProject] using spares
  -- The mark follows the lookup and the report, and only others can have freed the project since.
  by_cases kept : ∀ use ∈ othersIn [telling, altering], use.op ≠ .free owner
  · have regrouped : trail.strides = earlier ++ lookup :: [telling] ++ altering :: back := by
      simp [split]
    exact .own (follows.still_held sound regrouped located (by simp [published]) kept)
  · have told := (follows.strides _ altering back split).2
    have soundThere := follows.sound_at sound split
    obtain ⟨row, before, after⟩ := told.marked soundThere marks (told.target soundThere alters)
    exact .mismarked earlier lookup telling row rfl located
      ⟨report, published, sameProject, pausing⟩ (by simpa using kept) marks before after

theorem altered_by_pause (alters : altering.Alters slot) :
    Alteration projectId front altering slot := by
  have told := (follows.strides front altering back split).2
  have soundThere := follows.sound_at sound split
  have target := told.target soundThere alters
  rcases Taken.target_cases (allowed altering (by simp [split])) target with ⟨claimant, booked⟩ |
    ⟨leaver, booked⟩ | ⟨status, marks⟩
  · exact .filled claimant (told.vacant_of_claimed soundThere booked) booked
  · exact altered_by_free follows sound founded allowed split booked
  · exact altered_by_mark follows sound founded allowed split alters marks

end Altered

/-- Whatever others do before each step, a pause changes only its project's own slot and the slot
that it hands to the head of the queue, which is vacant then; unless others free the project while
the pause is reported, when it still marks the slot paused. -/
theorem pause_alters_own_slots (slotCount : UInt32) (capacity : Nat) (now : Millis)
    (history : List Use) (company : Company) (brokerUrl : String) (payload : Payload) :
    let pool := (Pool.create slotCount capacity now).run history
    let trail := ((Trail.start pool).run company (pause brokerUrl payload)).2
    ∀ front altering back slot, trail.strides = front ++ altering :: back →
      altering.Alters slot → Alteration payload.projectId front altering slot := by
  intro pool trail front altering back slot split alters
  have sound : pool.Sound := (Pool.create_sound slotCount capacity now).run history
  have nothing : AllFounded (Trail.start pool).strides := allFounded_nil
  have founded : AllFounded trail.strides := ((pause_founded nothing).run company).founded
  have allowed : ∀ stride ∈ trail.strides, stride.step.pauses payload.projectId = true :=
    (pause_pauses payload).strides company
  have follows : trail.Follows pool := run_follows (start_follows pool) company _
  exact altered_by_pause follows sound founded allowed split alters

/-- When others free the project while its pause is reported, and serve the next one, the pause
marks the slot of that one paused, and leaves it so. -/
theorem pause_can_mark_another :
    let waiting : Request := ⟨"second", "", "", "session", "", "", 0⟩
    let pool := (Pool.create 1 1 0).run
      [⟨0, 0, .claim ⟨1⟩ "first" "session"⟩, ⟨0, 0, .enqueue waiting⟩]
    let company := Company.interfering 2 [⟨1, 0, .free "first"⟩, ⟨1, 0, .claimNext⟩]
    let payload : Payload := { Payload.blank with projectId := "first", sessionId := "session" }
    let trail := ((Trail.start pool).run company (pause "" payload)).2
    (∃ marking ∈ trail.strides, HeldBy marking.pool ⟨1⟩ "second" ∧
      (marking.pool.slot? ⟨1⟩).map (·.status) = some .running ∧
      (marking.left.slot? ⟨1⟩).map (·.status) = some .paused) ∧
    HeldBy trail.pool ⟨1⟩ "second" ∧ (trail.pool.slot? ⟨1⟩).map (·.status) = some .paused := by
  decide +kernel

end WorkspacePool.Workflow
