import WorkspacePool.Proofs.Workflow.Founding

/-!
Which slot an operation frees. The pool frees by project, while the provisioner is addressed by
slot, and the project may change slots while the provisioner is at work. The slot that is freed is
the one the provisioner was called for, unless others have freed the project from there and claimed
another slot for it during the call.
-/

namespace WorkspacePool.Workflow

variable {start : Pool} {trail : Trail} {front back : List Stride} {vacating freeing : Stride}
  {slot freed : SlotId} {projectId : String}

theorem Taken.left_of_vacated {taken : Taken}
    (vacated : taken.vacated? = some (slot, projectId)) : taken.left = taken.pool := by
  obtain ⟨pool, now, step, answer⟩ := taken
  cases step with
  | readClock => contradiction
  | call call => rfl
  | usePool op => contradiction

theorem Claimed.inCustody {earlier : List Stride} (claimed : Claimed earlier slot projectId) :
    InCustody earlier slot projectId := by
  obtain ⟨finding, since, custody, -⟩ := claimed
  exact ⟨finding, since, custody⟩

/-- A workspace is torn down where the project was put or found, and fails to be set up where the
project was put. -/
theorem AllFounded.vacated {strides : List Stride} (founded : AllFounded strides)
    (split : strides = front ++ vacating :: back)
    (vacated : vacating.vacated? = some (slot, projectId)) :
    (vacating.step = .call (.release slot projectId) ∧ InCustody front slot projectId) ∨
      Claimed front slot projectId := by
  have rests := founded front vacating back split
  obtain ⟨⟨pool, now, step, answer⟩, others⟩ := vacating
  cases step with
  | readClock => contradiction
  | usePool op => contradiction
  | call call =>
      cases call with
      | release place owner =>
          simp only [Taken.vacated?, Option.some.injEq, Prod.mk.injEq] at vacated
          obtain ⟨rfl, rfl⟩ := vacated
          exact .inl ⟨rfl, rests⟩
      | assign place assignment =>
          cases answer with
          | ok done => contradiction
          | error reason =>
              simp only [Taken.vacated?, Option.some.injEq, Prod.mk.injEq] at vacated
              obtain ⟨rfl, rfl⟩ := vacated
              exact .inr rests
      | publish report => contradiction
      | lookUpToken userId => contradiction

/-- A slot is freed of a project after a call for a slot of it: the operation had put the project
there or found it there, and unless others have freed it since, it was there at the call. If it was,
the slot that is freed is the same, or others have moved the project there during the call. -/
structure Returned (earlier : List Stride) (vacating freeing : Stride) (slot freed : SlotId)
    (projectId : String) : Prop where
  vacated : vacating.vacated? = some (slot, projectId)
  found : ∃ finding since, Custody earlier finding since slot projectId ∧
    ((∀ use ∈ othersIn (since ++ [vacating]), use.op ≠ .free projectId) →
      HeldBy vacating.pool slot projectId)
  moved : HeldBy vacating.pool slot projectId → freed = slot ∨
    [.free slot projectId, .claim freed projectId].Sublist (vacating.pool.bookings freeing.others)

/-- Every slot that was freed was freed as it should be. -/
def FreesReturned (strides : List Stride) : Prop :=
  ∀ front freeing back freed projectId, strides = front ++ freeing :: back →
    freeing.booking? = some (.free freed projectId) →
    ∃ earlier vacating slot, front = earlier ++ [vacating] ∧
      Returned earlier vacating freeing slot freed projectId

theorem Trail.Follows.moved (follows : trail.Follows start) (sound : start.Sound)
    (split : trail.strides = front ++ vacating :: freeing :: back)
    (vacated : vacating.vacated? = some (slot, projectId))
    (booked : freeing.booking? = some (.free freed projectId))
    (held : HeldBy vacating.pool slot projectId) :
    freed = slot ∨ [.free slot projectId, .claim freed projectId].Sublist
      (vacating.pool.bookings freeing.others) := by
  have vacatingSound := follows.sound_at sound split
  obtain ⟨session, before⟩ := tenant?_of_heldBy vacatingSound held
  have regrouped : trail.strides = (front ++ [vacating]) ++ freeing :: back := by simp [split]
  have told := (follows.strides _ _ _ regrouped).2
  obtain ⟨other, served⟩ := told.tenant?_of_freed (follows.sound_at sound regrouped) booked
  have during : trail.strides = front ++ vacating :: [] ++ freeing :: back := by simp [split]
  rw [follows.pool_since during, Taken.left_of_vacated vacated] at served
  by_cases same : freed = slot
  · exact .inl same
  · exact .inr (Pool.run_moves vacatingSound freeing.others before served (Ne.symm same))

theorem Trail.Follows.freesReturned (follows : trail.Follows start) (sound : start.Sound)
    (founded : AllFounded trail.strides) : FreesReturned trail.strides := by
  intro front freeing back freed projectId split booked
  have rests := founded front freeing back split
  rw [Taken.step_of_freed booked] at rests
  obtain ⟨earlier, vacating, slot, rfl, vacated⟩ := rests
  have regrouped : trail.strides = earlier ++ vacating :: freeing :: back := by simp [split]
  obtain ⟨finding, since, custody⟩ : InCustody earlier slot projectId :=
    (founded.vacated regrouped vacated).elim (fun torn => torn.2) Claimed.inCustody
  refine ⟨earlier, vacating, slot, rfl, vacated, ⟨finding, since, custody, ?_⟩, ?_⟩
  · obtain ⟨before, rfl⟩ := custody.split
    exact follows.still_held sound regrouped custody.located custody.kept
  · exact follows.moved sound regrouped vacated booked

/-- Whatever others do before each step, an operation frees a slot of a project only right after a
call on the provisioner for a slot of that project, and it is the same slot unless the project was
moved meanwhile. The slots that a release, a pause or a pass over idle slots tells of were freed by
the operation right after it had a workspace of the project torn down. -/
theorem frees_follow_calls (slotCount : UInt32) (capacity : Nat) (now : Millis)
    (history : List Use) (company : Company) (brokerUrl : String) :
    let start := Trail.start ((Pool.create slotCount capacity now).run history)
    (∀ operation : Operation,
      FreesReturned (start.run company (operation.steps brokerUrl)).2.strides) ∧
    (∀ event, let (result, trail) := start.run company (handle brokerUrl event)
      FreesReturned trail.strides ∧ ∀ consequence slot, result = .ok consequence →
        consequence.freed? = some slot → TornDown trail.strides slot event.payload.projectId) ∧
    ∀ idleTimeout, let (freed, trail) := start.run company (pauseIdleSlots idleTimeout)
      FreesReturned trail.strides ∧
        ∀ slot ∈ freed, ∃ projectId, TornDown trail.strides slot projectId := by
  intro start
  have sound := (Pool.create_sound slotCount capacity now).run history
  have nothing : AllFounded start.strides := allFounded_nil
  have returned {α : Type} {steps : Steps α}
      (founded : AllFounded (start.run company steps).2.strides) :
      FreesReturned (start.run company steps).2.strides :=
    (run_follows (start_follows _) company steps).freesReturned sound founded
  refine ⟨?_, ?_, ?_⟩
  · intro operation
    exact returned ((operation_founded nothing operation).run company)
  · intro event
    obtain ⟨founded, torn⟩ :
        AllFounded (start.run company (handle brokerUrl event)).2.strides ∧ _ :=
      (handle_founded nothing event).run company
    exact ⟨returned founded, torn⟩
  · intro idleTimeout
    obtain ⟨founded, torn⟩ := (pauseIdleSlots_founded nothing idleTimeout).run company
    exact ⟨returned founded, torn⟩

/-- When others move the project to another slot while its workspace is torn down, the other slot is
freed, for which the provisioner was not called. -/
theorem freed_slot_can_differ :
    let pool := (Pool.create 2 1 0).run [⟨0, 0, .claim ⟨1⟩ "first" "session"⟩]
    let company := Company.interfering 2
      [⟨1, 0, .free "first"⟩, ⟨1, 0, .claim ⟨2⟩ "first" "session"⟩]
    let payload : Payload := { Payload.blank with projectId := "first", sessionId := "session" }
    let ends := (Trail.start pool).run company (release "" payload)
    ends.1 = .released (some ⟨2⟩) .idle ∧ ends.2.all (·.vacated?) = [(⟨1⟩, "first")] ∧
      ends.2.bookings = [.free ⟨2⟩ "first"] := by
  decide +kernel

end WorkspacePool.Workflow
