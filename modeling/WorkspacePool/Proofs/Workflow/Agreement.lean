import WorkspacePool.Proofs.Pool.History
import WorkspacePool.Proofs.Pool.Settled
import WorkspacePool.Proofs.Workflow.Orders

/-!
Agreement of a pool with its provisioner. Between operations a slot has the tenant that was set up
in it last, and whoever has a slot was set up last. Within an operation this fails for one slot and
one project at most, the ones that it deals with.
-/

namespace WorkspacePool.Workflow

namespace View

variable {view : View} {pool : Pool} {slots : List Slot} {row : Slot} {slot : SlotId}
  {projectId sessionId : String} {now : Millis}

/-- The pool and its provisioner agree about all slots and projects. -/
structure Agrees (view : View) : Prop where
  slots : view.pool.tenant? = view.tenancy
  projects : ∀ projectId, view.serves projectId = true ↔ view.pool.Hosts projectId

/-- The pool and its provisioner agree apart from one slot and one project. -/
structure AgreesApart (view : View) (slot : SlotId) (projectId : String) : Prop where
  slots : ∀ other, other ≠ slot → view.pool.tenant? other = view.tenancy other
  projects : ∀ other, other ≠ projectId → (view.serves other = true ↔ view.pool.Hosts other)

/-- How every operation leaves the pool and its provisioner. -/
structure Steady (view : View) : Prop where
  sound : view.pool.Sound
  settled : view.pool.Settled none
  agrees : view.Agrees

/-- A slot was claimed for a project that the provisioner does not know of yet. -/
structure Claimed (view : View) (slot : SlotId) (projectId sessionId : String) : Prop where
  sound : view.pool.Sound
  settled : view.pool.Settled none
  apart : view.AgreesApart slot projectId
  served : view.pool.tenant? slot = some (projectId, sessionId)

theorem Agrees.apart (agrees : view.Agrees) (slot : SlotId) (projectId : String) :
    view.AgreesApart slot projectId :=
  ⟨fun other _ => congrFun agrees.slots other, fun other _ => agrees.projects other⟩

theorem AgreesApart.order (apart : view.AgreesApart slot projectId)
    (tenant : Option (String × String)) (served : Bool) :
    AgreesApart ⟨view.pool, Function.update view.tenancy slot tenant,
      Function.update view.serves projectId served⟩ slot projectId := by
  constructor
  · intro other different
    simp only [Function.update_of_ne different]
    exact apart.slots other different
  · intro other different
    simp only [Function.update_of_ne different]
    exact apart.projects other different

/-- The slot changes hands between nobody and the project. -/
theorem AgreesApart.transfer (apart : view.AgreesApart slot projectId)
    (elsewhere : ∀ other, other ≠ slot → pool.tenant? other = view.pool.tenant? other)
    (before : ∀ other session, view.pool.tenant? slot = some (other, session) → other = projectId)
    (after : ∀ other session, pool.tenant? slot = some (other, session) → other = projectId) :
    AgreesApart { view with pool } slot projectId := by
  constructor
  · intro other different
    exact (elsewhere other different).trans (apart.slots other different)
  · intro other different
    refine (apart.projects other different).trans ?_
    constructor
    · rintro ⟨id, session, served⟩
      have away : id ≠ slot := by
        rintro rfl
        exact different (before other session served)
      exact ⟨id, session, (elsewhere id away).trans served⟩
    · rintro ⟨id, session, served⟩
      have away : id ≠ slot := by
        rintro rfl
        exact different (after other session served)
      exact ⟨id, session, (elsewhere id away).symm.trans served⟩

theorem AgreesApart.close (apart : view.AgreesApart slot projectId)
    (here : view.pool.tenant? slot = view.tenancy slot)
    (own : view.serves projectId = true ↔ view.pool.Hosts projectId) : view.Agrees := by
  constructor
  · funext other
    by_cases same : other = slot
    · rw [same, here]
    · exact apart.slots other same
  · intro other
    by_cases same : other = projectId
    · rw [same, own]
    · exact apart.projects other same

theorem Agrees.keep (agrees : view.Agrees) (same : pool.tenant? = view.pool.tenant?) :
    Agrees { view with pool } := by
  refine ⟨same.trans agrees.slots, ?_⟩
  intro projectId
  simp only [agrees.projects, Pool.Hosts, same]

theorem Steady.touch (steady : view.Steady) (slot : SlotId) (now : Millis) :
    Steady { view with pool := (view.pool.touch slot now).2 } := by
  have effect := Pool.perform_effect steady.sound now (.touch slot)
  obtain ⟨settled, same⟩ := Pool.touch_settled steady.sound steady.settled
  exact ⟨effect.sound steady.sound, settled, steady.agrees.keep same⟩

theorem Steady.withdraw (steady : view.Steady) (projectId : String) :
    Steady { view with pool := (view.pool.withdraw projectId).2 } := by
  obtain ⟨waiting, same, kept, -⟩ := Pool.withdraw_waiting steady.sound projectId
  rw [same]
  exact ⟨steady.sound.keep kept, steady.settled.keep kept, steady.agrees.keep rfl⟩

theorem Steady.enqueue (steady : view.Steady) {request : Request}
    (unheld : ¬ view.pool.Hosts request.projectId) :
    Steady { view with pool := (view.pool.enqueue request).2 } := by
  have effect := Pool.perform_effect steady.sound 0 (.enqueue request)
  have sound : (view.pool.enqueue request).2.Sound := effect.sound steady.sound
  rcases view.pool.enqueue_waiting request with same | same
  · rw [same]
    exact steady
  · rw [same] at sound ⊢
    exact ⟨sound, steady.settled.append unheld, steady.agrees.keep rfl⟩

theorem Steady.adjust (steady : view.Steady)
    (adjusted : view.pool.Adjusted slot pool)
    (served : view.pool.tenant? slot = some (projectId, sessionId)) :
    pool.Settled (some projectId) ∧ Agrees { view with pool } :=
  ⟨adjusted.settled steady.sound (steady.settled.except projectId) served,
    steady.agrees.keep (adjusted.tenant?_eq steady.sound)⟩

/-! ### Claims and their ends -/

/-- Occupying a free slot, while any part of the queue without the project's own request stays. -/
theorem Steady.claimed (steady : view.Steady) {waiting : List Request} (free : row.isBusy = false)
    (named : projectId ≠ "") (unheld : view.pool.holder? projectId = none)
    (replaced : Pool.Replaced row (row.occupy projectId sessionId now) view.pool.slots slots)
    (kept : waiting.Sublist view.pool.waiting)
    (absent : ∀ request ∈ waiting, request.projectId ≠ projectId) :
    Claimed { view with pool := { view.pool with slots, waiting } } row.id projectId sessionId := by
  have sound := steady.sound.occupy named unheld replaced
  have tenants := Pool.tenant?_replace steady.sound replaced rfl
  have vacant := Pool.tenant?_of_free steady.sound replaced.old_mem free
  have served : Pool.tenant? { view.pool with slots } row.id = some (projectId, sessionId) := by
    rw [tenants, Function.update_self, Slot.tenant?_occupy]
  have settled : Pool.Settled { view.pool with slots } (some projectId) := by
    refine (steady.settled.except projectId).replace steady.sound replaced rfl ?_ (fun _ _ => rfl)
    intro tenant other taken
    rw [Slot.tenant?_occupy] at taken
    simp [← Option.some.inj taken] at other
  refine ⟨sound.keep kept, ?_, ?_, served⟩
  · refine (settled.keep kept).restore ?_ ?_
    · intro request member own
      exact absurd own (absent request member)
    · intro slot member busy own
      rcases replaced.mem_cases member with rfl | earlier
      · rfl
      · have held := (steady.sound.consistent slot earlier).holds_iff.mpr ⟨busy, own⟩
        rw [Pool.holder?_eq_none_iff.mp unheld slot earlier] at held
        contradiction
  · refine (steady.agrees.apart row.id projectId).transfer ?_ ?_ ?_
    · intro other different
      exact (congrFun tenants other).trans (Function.update_of_ne different _ _)
    · intro other session taken
      rw [vacant] at taken
      contradiction
    · intro other session taken
      have same := served.symm.trans taken
      simp only [Option.some.injEq, Prod.mk.injEq] at same
      exact same.1.symm

/-- A claim, after which the project waits no longer. -/
theorem Steady.claim (steady : view.Steady)
    (effect : view.pool.Effect now (.claim slot projectId sessionId) (.ok ()) pool) :
    Claimed { view with pool := (pool.withdraw projectId).2 } slot projectId sessionId := by
  obtain ⟨waiting, same, kept, absent⟩ :=
    Pool.withdraw_waiting (effect.sound steady.sound) projectId
  rw [same]
  cases effect with
  | unchanged _ _ quiet => exact quiet.elim
  | claimed row projectId sessionId slots free named unheld replaced =>
      exact steady.claimed free named unheld replaced kept absent
  | adjusted _ _ quiet => exact quiet.elim

theorem Claimed.order (claimed : view.Claimed slot projectId sessionId)
    (tenant : Option (String × String)) (served : Bool) :
    Claimed ⟨view.pool, Function.update view.tenancy slot tenant,
      Function.update view.serves projectId served⟩ slot projectId sessionId :=
  ⟨claimed.sound, claimed.settled, claimed.apart.order tenant served, claimed.served⟩

/-- The provisioner has set up the slot for the project. -/
theorem Claimed.done (claimed : view.Claimed slot projectId sessionId)
    (here : view.tenancy slot = some (projectId, sessionId))
    (own : view.serves projectId = true) : view.Steady := by
  refine ⟨claimed.sound, claimed.settled, claimed.apart.close (claimed.served.trans here.symm) ?_⟩
  exact ⟨fun _ => ⟨slot, sessionId, claimed.served⟩, fun _ => own⟩

/-- The slot is freed, after the provisioner has cleared it or failed to set it up. -/
theorem AgreesApart.freed (apart : view.AgreesApart slot projectId) (sound : view.pool.Sound)
    (settled : view.pool.Settled (some projectId))
    (served : view.pool.tenant? slot = some (projectId, sessionId))
    (here : view.tenancy slot = none) (own : view.serves projectId = false) (now : Millis) :
    Steady { view with pool := (view.pool.free projectId now).2 } := by
  -- The pool frees by project; one row only holds it, so that is the row of the slot.
  obtain ⟨row, member, rfl, held, -⟩ := (Pool.tenant?_eq_some_iff sound).mp served
  have found : view.pool.holder? projectId = some row :=
    (Pool.holder?_eq_some_iff sound).mpr ⟨member, held⟩
  have replaced := Pool.updateFirst_replaced (·.clear now) found
  have freed : (view.pool.free projectId now).2 = { view.pool with
      slots := Pool.updateFirst (·.holds projectId) (·.clear now) view.pool.slots } := by
    simp only [Pool.free, found]
  have tenants := Pool.tenant?_replace sound replaced rfl
  rw [Slot.tenant?_clear, ← freed] at tenants
  have effect : view.pool.Effect now (.free projectId) _ (view.pool.free projectId now).2 :=
    Pool.free_effect
  have soundAfter := effect.sound sound
  have unheld : ¬ (view.pool.free projectId now).2.Hosts projectId := by
    rintro ⟨id, session, still⟩
    rw [tenants] at still
    by_cases same : id = row.id
    · rw [same, Function.update_self] at still
      contradiction
    · rw [Function.update_of_ne same] at still
      exact same (sound.same_tenant still served)
  refine ⟨soundAfter, ?_, ?_⟩
  · refine Pool.Settled.restore_unheld soundAfter ?_ unheld
    rw [freed]
    exact settled.replace sound replaced rfl (by simp) (by simp [Slot.clear, Slot.free])
  · have moved : AgreesApart { view with pool := (view.pool.free projectId now).2 } row.id
        projectId := by
      refine apart.transfer ?_ ?_ ?_
      · intro other different
        rw [tenants, Function.update_of_ne different]
      · intro other session taken
        have same := served.symm.trans taken
        simp only [Option.some.injEq, Prod.mk.injEq] at same
        exact same.1.symm
      · intro other session taken
        rw [tenants, Function.update_self] at taken
        contradiction
    refine moved.close ?_ ?_
    · change (view.pool.free projectId now).2.tenant? row.id = view.tenancy row.id
      rw [tenants, Function.update_self, here]
    · simp [own, unheld]

end View

end WorkspacePool.Workflow
