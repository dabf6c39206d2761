import WorkspacePool.Proofs.Workflow.Chronicle
import WorkspacePool.Proofs.Workflow.Duties

/-!
What it means that a project runs already. A create that finds its project in a slot says at once
that the project runs there, and looks at nothing else. So the slot may still be on its way: another
worker is setting it up, or is pausing the project and has yet to free it.
-/

namespace WorkspacePool.Workflow

variable {floor : Floor} {start pool : Pool} {log earlier later since : List Entry}
  {entry telling : Entry} {worker : Nat} {slot : SlotId} {projectId brokerUrl : String}

/-! ### A create that changes nothing -/

/-- The last steps found the project in the slot, noted activity there, and said that it runs. -/
def Reconfirms (payload : Payload) (slot : SlotId) (steps : List Taken) : Prop :=
  ∃ front finding touching telling, steps = front ++ [finding, touching, telling] ∧
    finding.sighted? = some (slot, payload.projectId) ∧
    touching.step = .usePool (.touch slot) ∧
    telling.step = .call (.publish (reportTo payload .running (runningMessage slot)))

section Creates

variable {payload : Payload} {trail : Trail} {steps front : List Taken} {finding : Taken}

theorem reconfirms_of_last {touching telling : Taken} (last : steps = front ++ [finding])
    (sighted : finding.sighted? = some (slot, payload.projectId))
    (touches : touching.step = .usePool (.touch slot))
    (tells : telling.step =
      .call (.publish (reportTo payload .running (runningMessage slot)))) :
    Reconfirms payload slot (steps ++ [touching] ++ [telling]) :=
  ⟨front, finding, touching, telling, by simp [last], sighted, touches, tells⟩

theorem confirmRunning_reconfirms (last : trail.taken = front ++ [finding])
    (sighted : finding.sighted? = some (slot, payload.projectId)) :
    Withstands (fun result after => result = .alreadyRunning slot ∧
      Reconfirms payload slot after.taken) (confirmRunning slot payload) trail := by
  unfold confirmRunning
  refine .use fun others now => .call fun rivals later answer => .pure ⟨rfl, ?_⟩
  rw [taken_after, taken_after]
  exact reconfirms_of_last last sighted rfl rfl

theorem enqueue_confirms_none (request : Request) :
    Withstands (fun result _ => ∀ slot, result ≠ .ok (.alreadyRunning slot)) (enqueue request)
      trail := by
  unfold enqueue
  refine .use fun others now => ?_
  split
  · exact .bind (.always fun _ _ => .pure (by simp))
  · exact .bind (.always fun _ _ => .pure (by simp))
  · exact .pure (by simp)

theorem create_reconfirms (diligent : Diligent none trail.taken) :
    Withstands (fun result after => ∀ slot, result = .ok (.alreadyRunning slot) →
      Reconfirms payload slot after.taken) (create brokerUrl payload) trail := by
  have held {place : SlotId} {trail : Trail} {front : List Taken} {finding : Taken}
      (last : trail.taken = front ++ [finding])
      (sighted : finding.sighted? = some (place, payload.projectId)) :
      Withstands (fun result after => ∀ slot, result = .ok (.alreadyRunning slot) →
        Reconfirms payload slot after.taken) (.ok <$> confirmRunning place payload :
          Steps (Except WorkflowError Consequence)) trail := by
    refine .map ((confirmRunning_reconfirms last sighted).mono ?_)
    rintro _ after ⟨rfl, reconfirms⟩ slot same
    cases same
    exact reconfirms
  unfold create
  split
  · exact .pure (by simp)
  refine .use fun others now => ?_
  split
  · next row found =>
    rw [found]
    exact held (taken_after _ _) rfl
  refine .look fun others now => ?_
  refine ((fillToken_idle _).diligent ((diligent.idle rfl).idle rfl)).seq ?_
  intro request filled diligent
  refine (place_diligent diligent placementAttempts).seq ?_
  intro result after placed
  cases result with
  | ok placement =>
      cases placement with
      | held place =>
          obtain ⟨-, front, finding, last, sighted⟩ := placed
          exact held last sighted
      | claimed place =>
          refine .use fun others now => .bind (.always fun outcome after => ?_)
          cases outcome with
          | ok done => exact .pure (by simp)
          | error reason => exact .pure (by simp)
  | error reason =>
      cases reason with
      | noSlotsAvailable =>
          exact (enqueue_confirms_none request).mono fun result after none slot same =>
            absurd same (none slot)
      | _ => exact .pure (by simp)

end Creates

/-! ### What becomes of a slot -/

/-- The workspace of the project was set up in the slot, and the worker that had it set up has been
told so and gone on. The project was not freed from the slot since. -/
def SetUp (log : List Entry) (slot : SlotId) (projectId : String) : Prop :=
  ∃ earlier setting later assignment, log = earlier ++ setting :: later ∧
    setting.setUp? = some (slot, assignment) ∧ assignment.projectId = projectId ∧
    (∃ next ∈ later, next.worker = setting.worker) ∧ Unfreed later slot projectId

/-- A worker has claimed the slot for the project and has done nothing since but set it up. -/
def SettingUp (log : List Entry) (worker : Nat) (slot : SlotId) (projectId : String) : Prop :=
  ∃ earlier claiming later, log = earlier ++ claiming :: later ∧ claiming.worker = worker ∧
    claiming.booking? = some (.claim slot projectId) ∧ Unfreed later slot projectId ∧
    ∀ own ∈ later, own.worker = worker → (Duty.setUp slot projectId).pursues own.step = true

/-- A pause of the owner has marked the slot paused. -/
def MarksFor (earlier : List Entry) (marking : Entry) (slot : SlotId) (owner : String) : Prop :=
  marking.Pauses slot owner ∨ (marking.step = .usePool (.mark slot .paused) ∧
    ∃ telling, last? (·.worker == marking.worker) earlier = some telling ∧
      telling.ReportsPausing owner)

/-- A worker has paused the project in the slot and has done nothing since but go on to free it. -/
def Reclaiming (log : List Entry) (worker : Nat) (slot : SlotId) (projectId : String) : Prop :=
  ∃ earlier marking later, log = earlier ++ marking :: later ∧ marking.worker = worker ∧
    HeldBy marking.pool slot projectId ∧ MarksFor earlier marking slot projectId ∧
    Unfreed later slot projectId ∧
    ∀ own ∈ later, own.worker = worker → (Duty.reclaim projectId).pursues own.step = true

/-- A pause of another project has marked the slot paused while it held this one. -/
def Mismarked (log : List Entry) (slot : SlotId) (projectId : String) : Prop :=
  ∃ earlier marking later owner, log = earlier ++ marking :: later ∧ owner ≠ projectId ∧
    marking.step = .usePool (.mark slot .paused) ∧ HeldBy marking.pool slot projectId ∧
    MarksFor earlier marking slot owner ∧ Unfreed later slot projectId

/-- The worker found the project in the slot, and has only noted activity there since. -/
structure Sighting (log : List Entry) (worker : Nat) (slot : SlotId) (projectId : String)
    (finding : Entry) (since : List Entry) : Prop where
  split : ∃ earlier, log = earlier ++ finding :: since
  own : finding.worker = worker
  sighted : finding.sighted? = some (slot, projectId)
  only : ∀ entry ∈ since, entry.worker = worker → entry.step = .usePool (.touch slot)

/-- The slot is the project's and runs, or others are about to free the project, or a pause of
another project has marked it. And it was set up, or others are setting it up. -/
structure Occupied (log : List Entry) (worker : Nat) (pool : Pool) (slot : SlotId)
    (projectId : String) : Prop where
  shown : ∃ row, pool.slot? slot = some row ∧ row.holds projectId = true ∧
    (row.status = .running ∨
      (∃ other, other ≠ worker ∧ Reclaiming log other slot projectId) ∨
      Mismarked log slot projectId)
  setUp : SetUp log slot projectId ∨ ∃ other, other ≠ worker ∧ SettingUp log other slot projectId

/-! ### Where a sighting leads -/

theorem Taken.IsTold.held_of_sighted {taken : Taken} (told : taken.IsTold)
    (sound : taken.pool.Sound) (sighted : taken.sighted? = some (slot, projectId)) :
    HeldBy taken.left slot projectId := by
  cases told with
  | look pool now => contradiction
  | call pool now call answer => contradiction
  | use pool now op =>
      change op.sighted? (pool.perform now op).1 = _ at sighted
      cases op with
      | holder owner =>
          cases found : pool.holder? owner with
          | none => simp [PoolOp.sighted?, Pool.perform, found] at sighted
          | some row =>
              obtain ⟨rfl, rfl⟩ : row.id = slot ∧ owner = projectId := by
                simpa [PoolOp.sighted?, Pool.perform, found] using sighted
              exact heldBy_of_tenant? sound (Pool.tenant?_of_holder? sound found)
      | claim id owner session =>
          cases refused : (pool.claim id owner session now).1 with
          | ok done => simp [PoolOp.sighted?, Pool.perform, refused] at sighted
          | error reason =>
              cases reason with
              | alreadyAssigned other place =>
                  obtain ⟨rfl, rfl⟩ : place = slot ∧ owner = projectId := by
                    simpa [PoolOp.sighted?, Pool.perform, refused] using sighted
                  exact heldBy_of_elsewhere sound refused
              | _ => simp [PoolOp.sighted?, Pool.perform, refused] at sighted
      | _ => simp [PoolOp.sighted?] at sighted

theorem booking?_of_touch {taken : Taken} (touches : taken.step = .usePool (.touch slot)) :
    taken.booking? = none := by
  obtain ⟨pool, now, step, answer⟩ := taken
  obtain rfl : step = .usePool (.touch slot) := touches
  rfl

theorem setUp?_of_touch {taken : Taken} (touches : taken.step = .usePool (.touch slot)) :
    taken.setUp? = none := by
  obtain ⟨pool, now, step, answer⟩ := taken
  obtain rfl : step = .usePool (.touch slot) := touches
  rfl

/-- Who says that a project runs right after noting activity in a slot has sighted it there. -/
theorem sighting_of_vouched {report : Report} {touching : Entry}
    (vouched : Vouched (stepsOf worker log) report)
    (last : last? (·.worker == worker) log = some touching)
    (touches : touching.step = .usePool (.touch slot)) :
    report.message = runningMessage slot ∧
      ∃ finding since, Sighting log worker slot report.projectId finding since := by
  obtain ⟨ahead, behind, rfl, own, silent⟩ := split_of_last? last
  have none : stepsOf worker behind = [] := by simpa [stepsOf] using silent
  have steps : stepsOf worker (ahead ++ touching :: behind) =
      stepsOf worker ahead ++ [touching.toTaken] := by
    rw [stepsOf_append, stepsOf_cons own, none]
  rw [steps] at vouched
  rcases vouched with ⟨front, before, place, split, setUp⟩ |
    ⟨front, finding, again, place, split, sighted, touched, message⟩
  · obtain ⟨-, same⟩ := List.append_inj' split rfl
    obtain rfl : touching.toTaken = before := by simpa using same
    rw [setUp?_of_touch touches] at setUp
    contradiction
  · have regrouped : stepsOf worker ahead ++ [touching.toTaken] =
        front ++ [finding] ++ [again] := by
      simpa using split
    obtain ⟨found, same⟩ := List.append_inj' regrouped rfl
    obtain rfl : touching.toTaken = again := by simpa using same
    obtain rfl : slot = place := by simpa [touches] using touched
    obtain ⟨before, entry, after, rfl, byWorker, rfl, -, last⟩ := exists_entry found
    refine ⟨message, entry, after ++ touching :: behind, ⟨before, by simp⟩, byWorker, sighted, ?_⟩
    intro other member same
    rcases List.mem_append.mp member with inside | member
    · have traced := mem_stepsOf inside same
      rw [last] at traced
      contradiction
    · cases List.mem_cons.mp member with
      | inl here => exact here ▸ touches
      | inr after => exact absurd same (silent other after)

/-! ### What others are about -/

theorem Underway.pursued {duty : Duty} (underway : Underway duty (stepsOf worker later)) :
    ∀ own ∈ later, own.worker = worker → duty.pursues own.step = true :=
  fun own member same => underway own.toTaken (mem_stepsOf member same)

theorem Taken.incurs?_of_claimed {taken : Taken}
    (claimed : taken.booking? = some (.claim slot projectId)) :
    taken.incurs? = some (.setUp slot projectId) := by
  obtain ⟨pool, now, step, answer⟩ := taken
  cases step with
  | readClock => contradiction
  | call call => contradiction
  | usePool op =>
      change op.booking? answer = _ at claimed
      cases op with
      | claim place owner session =>
          cases answer with
          | ok done => simpa [PoolOp.booking?, Taken.incurs?] using claimed
          | error reason => contradiction
      | claimNext =>
          cases answer with
          | some served => simpa [PoolOp.booking?, Taken.incurs?] using claimed
          | none => contradiction
      | free owner => cases answer <;> simp [PoolOp.booking?] at claimed
      | _ => contradiction

theorem Taken.ReportsPausing.incurs {taken : Taken} (reports : taken.ReportsPausing projectId) :
    taken.incurs? = some (.reclaim projectId) := by
  obtain ⟨pool, now, step, answer⟩ := taken
  obtain ⟨report, published, rfl, pausing⟩ := reports
  obtain rfl : step = .call (.publish report) := published
  simp [Taken.incurs?, pausing]

theorem Taken.Marks.unbooked {taken : Taken} (marks : taken.Marks slot) :
    taken.booking? = none := by
  obtain ⟨pool, now, step, answer⟩ := taken
  rcases marks with marks | ⟨owner, found, clock, shape⟩
  · obtain rfl : step = .usePool (.mark slot .paused) := marks
    rfl
  · cases shape
    rfl

/-- A step that goes on with a pause leaves the pause to be ended later. -/
theorem reclaim_of_cons {new : Taken} {later : List Taken}
    (owed : Performed (.reclaim projectId) (new :: later) ∨
      Underway (.reclaim projectId) (new :: later))
    (marks : new.step = .usePool (.mark slot .paused)) :
    Performed (.reclaim projectId) later ∨ Underway (.reclaim projectId) later := by
  rcases owed with ⟨since, closing, rest, split, underway, ends⟩ | underway
  · cases since with
    | nil =>
        obtain ⟨rfl, -⟩ := List.cons.inj split
        rcases ends with frees | ⟨pool, now, rfl⟩
        · simp [marks] at frees
        · simp at marks
    | cons first since =>
        obtain ⟨-, rfl⟩ := List.cons.inj split
        refine .inl ⟨since, closing, rest, rfl, ?_, ends⟩
        exact fun own member => underway own (List.mem_cons_of_mem _ member)
  · exact .inr fun own member => underway own (List.mem_cons_of_mem _ member)

theorem foreign_of_pursued {place : SlotId} {duty : Duty} {touching begun : Entry}
    (last : last? (·.worker == worker) log = some touching)
    (touches : touching.step = .usePool (.touch place)) (split : log = earlier ++ begun :: later)
    (other : begun.step ≠ .usePool (.touch place))
    (pursued : ∀ own ∈ later, own.worker = begun.worker → duty.pursues own.step = true) :
    begun.worker ≠ worker := by
  obtain ⟨ahead, behind, again, own, silent⟩ := split_of_last? last
  intro same
  rcases split_cases split again with ⟨-, rfl, -⟩ | ⟨between, rfl, -⟩ | ⟨between, rfl, -⟩
  · exact other touches
  · have goesOn := pursued touching (by simp) (own.trans same.symm)
    rw [touches] at goesOn
    cases duty <;> contradiction
  · exact silent begun (by simp) same

section Tenancies

variable {claiming : Entry} (chronicle : Chronicle start log pool) (sound : start.Sound)
  (split : log = earlier ++ claiming :: later)
  (booked : claiming.booking? = some (.claim slot projectId))
  (unfreed : Unfreed later slot projectId)

include chronicle sound split booked unfreed

/-- A slot that was claimed and not freed since has been its tenant's at every step. -/
theorem held_within {between after : List Entry} (inside : later = between ++ entry :: after) :
    entry.IsTold ∧ entry.pool.Sound ∧ HeldBy entry.pool slot projectId := by
  obtain ⟨begun, claimedTold⟩ := chronicle.before split
  have there : log = (earlier ++ claiming :: between) ++ entry :: after := by simp [split, inside]
  obtain ⟨reached, told⟩ := chronicle.before there
  have soundBegun := begun.sound_end sound
  have held := claimedTold.held_of_claimed soundBegun booked
  refine ⟨told, reached.sound_end sound, reached.stays sound rfl held ?_⟩
  exact fun other member => unfreed other (by simp [inside, member])

theorem unended_within {between after : List Entry} (inside : later = between ++ entry :: after) :
    entry.step ≠ .usePool (.free projectId) ∧ ¬ entry.Misses projectId := by
  obtain ⟨told, soundThere, held⟩ := held_within chronicle sound split booked unfreed inside
  refine ⟨fun frees => ?_, told.not_misses soundThere held⟩
  exact unfreed entry (by simp [inside]) (told.frees_held soundThere held frees)

variable (accountable : ∀ worker, Accountable (stepsOf worker log))

include accountable

/-- Whoever claimed the slot has had it set up, or is setting it up. -/
theorem set_up_since : SetUp log slot projectId ∨ SettingUp log claiming.worker slot projectId := by
  have steps : stepsOf claiming.worker log =
      stepsOf claiming.worker earlier ++ claiming.toTaken :: stepsOf claiming.worker later := by
    rw [split, stepsOf_append, stepsOf_cons rfl]
  have incurred := Taken.incurs?_of_claimed booked
  rcases (accountable claiming.worker).dutiful _ _ _ _ steps incurred with performed | underway
  · obtain ⟨since, closing, rest, tail, -, ends⟩ := performed
    obtain ⟨between, entry, after, rfl, own, same, ahead, -⟩ := exists_entry tail
    -- The project was not freed, so the duty was ended by setting the slot up.
    have unended := unended_within chronicle sound split booked unfreed rfl
    rcases ends with frees | ⟨front, assigning, assignment, rfl, setUp, project⟩
    · rw [← same] at frees
      exact absurd frees unended.1
    · obtain ⟨first, setting, second, rfl, bySame, rfl, -, -⟩ := exists_entry ahead
      refine .inl ⟨earlier ++ claiming :: first, setting, second ++ entry :: after, assignment, ?_,
        setUp, project, ⟨entry, by simp, own.trans bySame.symm⟩, ?_⟩
      · simp [split]
      · exact fun other member => unfreed other (by simp at member ⊢; tauto)
  · exact .inr ⟨earlier, claiming, later, split, rfl, booked, unfreed, underway.pursued⟩

omit accountable in
theorem reclaiming_since {between after : List Entry} {marking : Entry}
    (inside : later = between ++ marking :: after)
    (owed : Performed (.reclaim projectId) (stepsOf worker after) ∨
      Underway (.reclaim projectId) (stepsOf worker after)) :
    ∀ own ∈ after, own.worker = worker → (Duty.reclaim projectId).pursues own.step = true := by
  rcases owed with ⟨since, closing, rest, tail, -, ends⟩ | underway
  · obtain ⟨first, entry, second, rfl, -, rfl, -, -⟩ := exists_entry tail
    have further : later = (between ++ marking :: first) ++ entry :: second := by simp [inside]
    have unended := unended_within chronicle sound split booked unfreed further
    rcases ends with frees | misses
    · exact absurd frees unended.1
    · exact absurd misses unended.2
  · exact underway.pursued

/-- A slot that was marked paused while it was a project's is being freed of it, or the mark was
another project's. -/
theorem marked_since {between after : List Entry} {marking : Entry}
    (founded : ∃ strides : List Stride, strides.map (·.toTaken) =
      stepsOf marking.worker (earlier ++ claiming :: between) ∧ Founded strides marking.step)
    (inside : later = between ++ marking :: after) (marks : marking.Marks slot) :
    Reclaiming log marking.worker slot projectId ∨ Mismarked log slot projectId := by
  obtain ⟨told, soundThere, held⟩ := held_within chronicle sound split booked unfreed inside
  have there : log = (earlier ++ claiming :: between) ++ marking :: after := by simp [split, inside]
  have steps : stepsOf marking.worker log =
      stepsOf marking.worker (earlier ++ claiming :: between) ++
        marking.toTaken :: stepsOf marking.worker after := by
    rw [there, stepsOf_append, stepsOf_cons rfl]
  have still : Unfreed after slot projectId :=
    fun other member => unfreed other (by simp [inside, member])
  rcases marks with marks | ⟨owner, pauses⟩
  · -- The pause looked its project up and reported itself in the two steps before.
    obtain ⟨strides, same, rests⟩ := founded
    rw [marks] at rests
    obtain ⟨-, front, lookup, telling, owner, rfl, located, reports⟩ := rests
    have ahead : stepsOf marking.worker (earlier ++ claiming :: between) =
        (front.map (·.toTaken) ++ [lookup.toTaken]) ++ telling.toTaken :: [] := by simp [← same]
    obtain ⟨first, entry, second, prior, own, entry_eq, -, silent⟩ := exists_entry ahead
    have marksFor : MarksFor (earlier ++ claiming :: between) marking slot owner := by
      refine .inr ⟨marks, entry, ?_, ?_⟩
      · rw [prior]
        exact last?_of_split own silent
      · rw [entry_eq]
        exact reports
    -- Reported for this project, the pause owes it to free the project.
    by_cases mine : owner = projectId
    · subst mine
      have owed := (accountable marking.worker).dutiful
        (front.map (·.toTaken) ++ [lookup.toTaken]) telling.toTaken
        (marking.toTaken :: stepsOf marking.worker after) _ (by simp [steps, ahead]) reports.incurs
      exact .inl ⟨_, marking, after, there, rfl, held, marksFor, still,
        reclaiming_since chronicle sound split booked unfreed inside (reclaim_of_cons owed marks)⟩
    · exact .inr ⟨_, marking, after, owner, there, mine, marks, held, marksFor, still⟩
  · obtain ⟨session, served⟩ := tenant?_of_heldBy soundThere held
    have located : marking.located? = some (slot, owner) := by
      obtain ⟨pool, now, shape⟩ := pauses
      rw [shape]
      rfl
    obtain ⟨rfl, -⟩ := told.same_project soundThere served located
    have incurs : marking.incurs? = some (.reclaim projectId) := by
      obtain ⟨pool, now, shape⟩ := pauses
      rw [shape]
      rfl
    have owed := (accountable marking.worker).dutiful _ _ _ _ steps incurs
    exact .inl ⟨_, marking, after, there, rfl, held, .inl pauses, still,
      reclaiming_since chronicle sound split booked unfreed inside owed⟩

end Tenancies

section Occupation

variable {place : SlotId} {touching : Entry}
  (last : last? (·.worker == worker) log = some touching)
  (touches : touching.step = .usePool (.touch place))

include last touches

theorem SettingUp.foreign {other : Nat} (settingUp : SettingUp log other slot projectId) :
    other ≠ worker := by
  obtain ⟨earlier, claiming, later, split, rfl, booked, -, pursued⟩ := settingUp
  refine foreign_of_pursued last touches split ?_ pursued
  intro same
  rw [booking?_of_touch same] at booked
  contradiction

theorem Reclaiming.foreign {other : Nat} (reclaiming : Reclaiming log other slot projectId) :
    other ≠ worker := by
  obtain ⟨earlier, marking, later, split, rfl, -, marks, -, pursued⟩ := reclaiming
  refine foreign_of_pursued last touches split ?_ pursued
  intro same
  rcases marks with ⟨pool, now, shape⟩ | ⟨marks, -⟩
  · simp [shape] at same
  · simp [marks] at same

/-- A slot that a project holds is set up or being set up, and runs or is being freed. -/
theorem Chronicle.occupied (chronicle : Chronicle start log pool) (sound : start.Sound)
    (vacant : ∀ row ∈ start.slots, row.isBusy = false)
    (accountable : ∀ worker, Accountable (stepsOf worker log))
    (founded : ∀ earlier entry later, log = earlier ++ entry :: later →
      ∃ strides : List Stride, strides.map (·.toTaken) = stepsOf entry.worker earlier ∧
        Founded strides entry.step)
    (held : HeldBy pool slot projectId) : Occupied log worker pool slot projectId := by
  obtain ⟨earlier, claiming, later, split, booked, unfreed⟩ := chronicle.claimed sound vacant held
  constructor
  · obtain ⟨row, member, rfl, holds⟩ := held
    have soundEnd := chronicle.sound_end sound
    have shown := (Pool.slot?_eq_some_iff soundEnd).mpr ⟨member, rfl⟩
    refine ⟨row, shown, holds, ?_⟩
    have busy := (soundEnd.consistent row member).busy_iff_status.mp (Slot.holds_iff.mp holds).1
    cases status : row.status with
    | empty => exact absurd status busy
    | running => exact .inl rfl
    | paused =>
        obtain ⟨front, marking, back, again, marks, unclaimed⟩ :=
          chronicle.marked sound vacant shown status
        -- The mark came after the claim, for the slot was not claimed since the mark.
        rcases split_cases split again with ⟨-, rfl, -⟩ | ⟨between, inside, rfl⟩ |
          ⟨between, rfl, -⟩
        · rw [marks.unbooked] at booked
          contradiction
        · cases marked_since chronicle sound split booked unfreed accountable
            (founded _ marking back again) inside marks with
          | inl reclaiming =>
              exact .inr (.inl ⟨marking.worker, reclaiming.foreign last touches, reclaiming⟩)
          | inr mismarked => exact .inr (.inr mismarked)
        · exact absurd booked (unclaimed claiming (by simp) projectId)
  · rcases set_up_since chronicle sound split booked unfreed accountable with done | under
    · exact .inl done
    · exact .inr ⟨claiming.worker, under.foreign last touches, under⟩

end Occupation

theorem create_vacant (slotCount : UInt32) (capacity : Nat) (now : Millis) :
    ∀ row ∈ (Pool.create slotCount capacity now).slots, row.isBusy = false := by
  intro row member
  obtain ⟨index, -, rfl⟩ := List.mem_map.mp member
  rfl

/-- A create that answers that its project runs already has found it in the slot, noted activity
there and said that it runs. However the steps of several workers' operations fall between each
other, whoever says so after noting activity has found the project in the slot right before. Unless
others have freed it since, the project holds the slot. The slot then runs, or another worker has
paused it and is going on to free it, or a pause of another project has marked it. And it was set up
with success, or another worker that has claimed it is setting it up. -/
theorem confirmed_slot_is_occupied (slotCount : UInt32) (capacity : Nat) (start : Millis)
    (brokerUrl : String) :
    (∀ (pool : Pool) (company : Company) (payload : Payload) (slot : SlotId),
      let (result, trail) := (Trail.start pool).run company (create brokerUrl payload)
      result = .ok (.alreadyRunning slot) → Reconfirms payload slot trail.taken) ∧
    ∀ turns : List Turn,
      let floor := (Floor.fresh slotCount capacity start).run brokerUrl turns
      ∀ earlier telling later report touching slot, floor.log = earlier ++ telling :: later →
        telling.step = .call (.publish report) → report.status = .running →
        last? (·.worker == telling.worker) earlier = some touching →
        touching.step = .usePool (.touch slot) →
        report.message = runningMessage slot ∧
        ∃ finding since, Sighting earlier telling.worker slot report.projectId finding since ∧
          ((∃ freeing ∈ since, freeing.worker ≠ telling.worker ∧
            freeing.booking? = some (.free slot report.projectId)) ∨
          Occupied earlier telling.worker telling.pool slot report.projectId) := by
  constructor
  · intro pool company payload slot
    have nothing : Diligent none (Trail.start pool).taken := diligent_nil
    exact (create_reconfirms nothing).run company slot
  · intro turns floor earlier telling later report touching slot split published running last
      touches
    have sound := Pool.create_sound slotCount capacity start
    have vacant := create_vacant slotCount capacity start
    have traced : floor.Traced := (fresh_traced slotCount capacity start).run turns
    have reliable : floor.Reliable := (fresh_reliable slotCount capacity start).run turns
    have whole : Chronicle (Pool.create slotCount capacity start) floor.log floor.pool :=
      (Chronicle.nil : Chronicle _ [] _).run turns
    have chronicle := (whole.before split).1
    have accountable (worker : Nat) : Accountable (stepsOf worker earlier) :=
      reliable.accountable worker split
    have founded (front : List Entry) (entry : Entry) (back : List Entry)
        (inside : earlier = front ++ entry :: back) : ∃ strides : List Stride,
          strides.map (·.toTaken) = stepsOf entry.worker front ∧ Founded strides entry.step := by
      have further : floor.log = front ++ entry :: (back ++ telling :: later) := by
        simp [split, inside]
      exact traced.founded further
    have vouched : Vouched (stepsOf telling.worker earlier) report := by
      have through : floor.log = (earlier ++ [telling]) ++ later := by simp [split]
      have upTo := reliable.accountable telling.worker through
      rw [stepsOf_append, stepsOf_cons rfl] at upTo
      exact upTo.vouched _ _ _ report rfl published running
    obtain ⟨message, finding, since, sighting⟩ := sighting_of_vouched vouched last touches
    refine ⟨message, finding, since, sighting, ?_⟩
    by_cases freed : Unfreed since slot report.projectId
    · obtain ⟨before, there⟩ := sighting.split
      obtain ⟨reached, told⟩ := chronicle.before there
      have found := told.held_of_sighted (reached.sound_end sound) sighting.sighted
      have held := chronicle.stays sound there found freed
      exact .inr (chronicle.occupied last touches sound vacant accountable founded held)
    · obtain ⟨freeing, member, booked⟩ : ∃ freeing ∈ since,
          freeing.booking? = some (.free slot report.projectId) := by
        simpa [Unfreed] using freed
      refine .inl ⟨freeing, member, ?_, booked⟩
      intro own
      rw [booking?_of_touch (sighting.only freeing member own)] at booked
      contradiction

/-- While the workspace of an idle project is torn down, and while a workspace is first set up, a
create that was delivered again says that the project runs already. -/
theorem confirmed_slot_can_be_unready :
    let running := (Floor.fresh 1 1 0).run "" ([.creates 0 "first" ""] ++ Turn.steps 0 8 0)
    let pausing := running.run "" ([.start 1 (.pauseIdle (Span.ofMinutes 30))] ++
      Turn.steps 1 5 1800001)
    let starting := (Floor.fresh 1 1 0).run "" ([.creates 1 "first" ""] ++ Turn.steps 1 7 0)
    let again := [.creates 0 "first" ""] ++ Turn.steps 0 3 1800001
    let payload : Payload := { Payload.blank with projectId := "first" }
    let report := reportTo payload .running (runningMessage ⟨1⟩)
    let answer (floor : Floor) :=
      ((Trail.start floor.pool).run (.interfering 0 []) (create "" payload)).1
    ((pausing.run "" again).Awaits 0 (.publish report) ∧
      (pausing.run "" again).Awaits 1 (.release ⟨1⟩ "first") ∧
      ((pausing.run "" again).pool.slot? ⟨1⟩).map (·.status) = some .paused ∧
      answer pausing = .ok (.alreadyRunning ⟨1⟩)) ∧
    ((starting.run "" again).Awaits 0 (.publish report) ∧
      (starting.run "" again).Awaits 1 (.assign ⟨1⟩ ⟨"first", "", "", "", "", "main"⟩) ∧
      answer starting = .ok (.alreadyRunning ⟨1⟩)) := by
  decide +kernel

end WorkspacePool.Workflow
