import WorkspacePool.Proofs.Pool.Effect

/-!
Settled pools. Between operations nobody who holds a slot waits for one, and every slot that is held
runs. Within an operation one project may be excepted, and `Settled.restore` takes the exception
back.
-/

namespace WorkspacePool.Pool

variable {pool : Pool} {slots : List Slot} {slot old new : Slot} {id : SlotId}
  {projectId : String} {request : Request} {now : Millis} {excepted : Option String}

def Hosts (pool : Pool) (projectId : String) : Prop :=
  ∃ id session, pool.tenant? id = some (projectId, session)

theorem Sound.hosts_iff (sound : pool.Sound) :
    pool.Hosts projectId ↔ ∃ slot ∈ pool.slots, slot.holds projectId = true := by
  constructor
  · rintro ⟨id, session, served⟩
    obtain ⟨slot, member, -, held, -⟩ := (tenant?_eq_some_iff sound).mp served
    exact ⟨slot, member, held⟩
  · rintro ⟨slot, member, held⟩
    exact ⟨slot.id, slot.sessionId, tenant?_of_holds sound member held⟩

theorem Sound.not_hosts (sound : pool.Sound) (unheld : pool.holder? projectId = none) :
    ¬ pool.Hosts projectId := by
  rintro ⟨id, session, served⟩
  exact tenant?_ne_of_unheld sound unheld served

theorem tenant?_of_holder? (sound : pool.Sound) (found : pool.holder? projectId = some slot) :
    pool.tenant? slot.id = some (projectId, slot.sessionId) := by
  obtain ⟨member, held⟩ := (holder?_eq_some_iff sound).mp found
  exact tenant?_of_holds sound member held

/-- Whoever waits holds no slot and every slot that is held runs, one project excepted. -/
structure Settled (pool : Pool) (excepted : Option String) : Prop where
  apart : ∀ request ∈ pool.waiting, some request.projectId ≠ excepted →
    ¬ pool.Hosts request.projectId
  runs : ∀ slot ∈ pool.slots, slot.isBusy = true → some slot.projectId ≠ excepted →
    slot.status = .running

theorem Settled.except (settled : pool.Settled none) (projectId : String) :
    pool.Settled (some projectId) :=
  ⟨fun request member _ => settled.apart request member (by simp),
    fun slot member busy _ => settled.runs slot member busy (by simp)⟩

/-- A project need not be excepted when its slots run and it does not both hold one and wait. -/
theorem Settled.restore (settled : pool.Settled (some projectId))
    (apart : ∀ request ∈ pool.waiting, request.projectId = projectId → ¬ pool.Hosts projectId)
    (runs : ∀ slot ∈ pool.slots, slot.isBusy = true → slot.projectId = projectId →
      slot.status = .running) : pool.Settled none := by
  constructor
  · intro request member _
    by_cases own : request.projectId = projectId
    · rw [own]
      exact apart request member own
    · exact settled.apart request member (by simpa using own)
  · intro slot member busy _
    by_cases own : slot.projectId = projectId
    · exact runs slot member busy own
    · exact settled.runs slot member busy (by simpa using own)

theorem Settled.restore_unheld (sound : pool.Sound) (settled : pool.Settled (some projectId))
    (unheld : ¬ pool.Hosts projectId) : pool.Settled none := by
  refine settled.restore (fun _ _ _ => unheld) ?_
  intro slot member busy own
  have held := (sound.consistent slot member).holds_iff.mpr ⟨busy, own⟩
  exact absurd (sound.hosts_iff.mpr ⟨slot, member, held⟩) unheld

theorem Settled.keep (settled : pool.Settled excepted) {waiting : List Request}
    (kept : waiting.Sublist pool.waiting) : Settled { pool with waiting } excepted :=
  ⟨fun request member => settled.apart request (kept.subset member), settled.runs⟩

theorem Settled.append (settled : pool.Settled excepted)
    (unheld : ¬ pool.Hosts request.projectId) :
    Settled { pool with waiting := pool.waiting ++ [request] } excepted := by
  refine ⟨?_, settled.runs⟩
  intro other member
  rcases List.mem_append.mp member with earlier | last
  · exact settled.apart other earlier
  · rw [List.mem_singleton.mp last]
    exact fun _ => unheld

/-- A row may be replaced by one that runs and brings no tenant but the excepted one. -/
theorem Settled.replace (settled : pool.Settled excepted) (sound : pool.Sound)
    (replaced : Replaced old new pool.slots slots) (sameId : new.id = old.id)
    (own : ∀ tenant, some tenant.1 ≠ excepted → new.tenant? = some tenant →
      old.tenant? = some tenant)
    (runs : new.isBusy = true → some new.projectId ≠ excepted → new.status = .running) :
    Settled { pool with slots } excepted := by
  constructor
  · rintro request member other ⟨id, session, served⟩
    refine settled.apart request member other ⟨id, session, ?_⟩
    rw [tenant?_replace sound replaced sameId] at served
    by_cases same : id = old.id
    · subst same
      rw [Function.update_self] at served
      rw [tenant?_of_mem sound replaced.old_mem]
      exact own _ other served
    · rwa [Function.update_of_ne same] at served
  · intro slot member
    rcases replaced.mem_cases member with rfl | earlier
    · exact runs
    · exact settled.runs slot earlier

/-! ### Changes of the queue -/

theorem enqueue_waiting (pool : Pool) (request : Request) : (pool.enqueue request).2 = pool ∨
    (pool.enqueue request).2 = { pool with waiting := pool.waiting ++ [request] } := by
  unfold enqueue
  split
  · exact .inl rfl
  · split
    · exact .inl rfl
    · split
      · exact .inl rfl
      · exact .inr rfl

/-- After a withdrawal the project does not wait, and the others do as before. -/
theorem withdraw_waiting (sound : pool.Sound) (projectId : String) :
    ∃ waiting, (pool.withdraw projectId).2 = { pool with waiting } ∧
      waiting.Sublist pool.waiting ∧ ∀ request ∈ waiting, request.projectId ≠ projectId := by
  unfold withdraw
  split
  · next missing =>
    refine ⟨pool.waiting, rfl, List.Sublist.refl _, ?_⟩
    intro request member
    simpa using List.find?_eq_none.mp missing request member
  · next request found =>
    obtain ⟨front, rest, queue, remaining, ahead, own⟩ := withdraw_split found
    have behind := (sound.other_projects queue).2
    refine ⟨_, rfl, List.eraseP_sublist, ?_⟩
    rw [remaining]
    intro other member
    rcases List.mem_append.mp member with inFront | inRest
    · exact ahead other inFront
    · rw [← own]
      exact behind other inRest

/-! ### Changes of status and activity -/

/-- The status or the time of the last activity of a slot was set, or nothing at all. -/
def Adjusted (pool : Pool) (id : SlotId) (after : Pool) : Prop :=
  after = pool ∨ ∃ slot status lastActivity slots, slot.id = id ∧
    Replaced slot { slot with status, lastActivity } pool.slots slots ∧
    after = { pool with slots }

theorem mark_adjusted {status : SlotStatus} : pool.Adjusted id (pool.mark id status).2 := by
  unfold mark
  split
  · exact .inl rfl
  · next slot found =>
    split
    · obtain ⟨number, slots, replaced, same⟩ := updateSlot_replaced ({ · with status }) found
      exact .inr ⟨slot, status, slot.lastActivity, slots, number, replaced, same⟩
    · exact .inl rfl

/-- A pause is refused without a change, or the slot serves the project. -/
theorem pauseIfHeld_cases (sound : pool.Sound) (id : SlotId) (projectId : String) :
    (∃ reason, pool.pauseIfHeld id projectId = (.error reason, pool)) ∨
    ∃ after session, pool.pauseIfHeld id projectId = (.ok (), after) ∧ pool.Adjusted id after ∧
      pool.tenant? id = some (projectId, session) := by
  unfold pauseIfHeld
  split
  · exact .inl ⟨_, rfl⟩
  · next slot found =>
    split
    · exact .inl ⟨_, rfl⟩
    · next held =>
      split
      · exact .inl ⟨_, rfl⟩
      · obtain ⟨rfl, slots, replaced, same⟩ :=
          updateSlot_replaced ({ · with status := .paused }) found
        have served := tenant?_of_holds sound replaced.old_mem (by simpa using held)
        exact .inr ⟨_, slot.sessionId, rfl,
          .inr ⟨slot, .paused, slot.lastActivity, slots, rfl, replaced, same⟩, served⟩

theorem Adjusted.tenant?_eq {after : Pool} (adjusted : pool.Adjusted id after)
    (sound : pool.Sound) : after.tenant? = pool.tenant? := by
  rcases adjusted with rfl | ⟨slot, status, lastActivity, slots, -, replaced, rfl⟩
  · rfl
  · exact tenant?_adjust sound replaced

theorem Adjusted.settled {after : Pool} (adjusted : pool.Adjusted id after) (sound : pool.Sound)
    (settled : pool.Settled (some projectId)) {session : String}
    (served : pool.tenant? id = some (projectId, session)) : after.Settled (some projectId) := by
  rcases adjusted with rfl | ⟨slot, status, lastActivity, slots, rfl, replaced, rfl⟩
  · exact settled
  · refine settled.replace sound replaced rfl (fun _ _ same => same) ?_
    intro busy other
    have busyBefore : slot.isBusy = true := busy
    rw [tenant?_of_mem sound replaced.old_mem, Slot.tenant?_of_busy busyBefore] at served
    simp only [Option.some.injEq, Prod.mk.injEq] at served
    simp [served.1] at other

theorem touch_settled (sound : pool.Sound) (settled : pool.Settled excepted) :
    (pool.touch id now).2.Settled excepted ∧ (pool.touch id now).2.tenant? = pool.tenant? := by
  unfold touch
  split
  · exact ⟨settled, rfl⟩
  · next slot found =>
    obtain ⟨-, slots, replaced, same⟩ := updateSlot_replaced ({ · with lastActivity := now }) found
    have runs := settled.runs slot replaced.old_mem
    rw [same]
    exact ⟨settled.replace sound replaced rfl (fun _ _ same => same) runs,
      tenant?_adjust sound replaced⟩

end WorkspacePool.Pool
