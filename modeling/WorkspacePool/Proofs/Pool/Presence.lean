import WorkspacePool.Proofs.Pool.Booking
import WorkspacePool.Proofs.Pool.Queue
import WorkspacePool.Proofs.Pool.Settled

/-!
Where projects are: who holds a slot and who waits for one, and how one use of a pool changes that.
The reply tells it: a claim brings its project in, a free takes it out, what is handed out waits no
more, and what is accepted waits from then on.
-/

namespace WorkspacePool

/-- The project whose request a reply says to wait. -/
def PoolOp.accepted? : (op : PoolOp) → op.Reply → Option String
  | .enqueue request, .ok _ => some request.projectId
  | _, _ => none

theorem PoolOp.accepted?_of_isQuiet {op : PoolOp} {reply : op.Reply} (quiet : op.IsQuiet reply) :
    op.accepted? reply = none := by
  cases op with
  | enqueue request =>
      cases reply with
      | ok place => exact quiet.elim
      | error reason => rfl
  | _ => rfl

/-- Only a use that asks for it frees a project. -/
theorem PoolOp.op_of_free {op : PoolOp} {reply : op.Reply} {slot : SlotId} {projectId : String}
    (freed : op.booking? reply = some (.free slot projectId)) : op = .free projectId := by
  cases op with
  | free leaver =>
      cases reply with
      | ok place =>
          simp only [PoolOp.booking?, Option.some.injEq, Booking.free.injEq] at freed
          rw [freed.2]
      | error reason => contradiction
  | claim place claimant session => cases reply <;> simp [PoolOp.booking?] at freed
  | claimNext => cases reply <;> simp [PoolOp.booking?] at freed
  | _ => contradiction

namespace Pool

variable {pool after : Pool} {now : Millis} {op : PoolOp} {reply : op.Reply} {projectId : String}

def Waits (pool : Pool) (projectId : String) : Prop :=
  ∃ request ∈ pool.waiting, request.projectId = projectId

/-- The project neither holds a slot nor waits for one. -/
structure Absent (pool : Pool) (projectId : String) : Prop where
  unheld : ¬ pool.Hosts projectId
  unqueued : ¬ pool.Waits projectId

/-! ### Holders -/

theorem hosts_of_still (still : Transfers pool.tenant? after.tenant? none) :
    after.Hosts projectId ↔ pool.Hosts projectId := by
  have same : after.tenant? = pool.tenant? := still
  simp only [Hosts, same]

theorem hosts_of_claim {slot : SlotId} {claimant : String}
    (claimed : Transfers pool.tenant? after.tenant? (some (.claim slot claimant))) :
    after.Hosts projectId ↔ projectId = claimant ∨ pool.Hosts projectId := by
  obtain ⟨free, -, session, changed⟩ := claimed
  constructor
  · rintro ⟨id, other, served⟩
    rw [changed] at served
    by_cases here : id = slot
    · rw [here, Function.update_self] at served
      simp only [Option.some.injEq, Prod.mk.injEq] at served
      exact .inl served.1.symm
    · rw [Function.update_of_ne here] at served
      exact .inr ⟨id, other, served⟩
  · rintro (rfl | ⟨id, other, served⟩)
    · exact ⟨slot, session, by rw [changed, Function.update_self]⟩
    · have away : id ≠ slot := by
        rintro rfl
        rw [free] at served
        contradiction
      exact ⟨id, other, by rw [changed, Function.update_of_ne away, served]⟩

theorem hosts_of_free {slot : SlotId} {leaver : String}
    (freed : Transfers pool.tenant? after.tenant? (some (.free slot leaver))) :
    after.Hosts projectId ↔ projectId ≠ leaver ∧ pool.Hosts projectId := by
  obtain ⟨⟨session, was⟩, alone, changed⟩ := freed
  constructor
  · rintro ⟨id, other, served⟩
    rw [changed] at served
    have away : id ≠ slot := by
      rintro rfl
      simp at served
    rw [Function.update_of_ne away] at served
    refine ⟨?_, id, other, served⟩
    rintro rfl
    exact alone id other away served
  · rintro ⟨different, id, other, served⟩
    have away : id ≠ slot := by
      rintro rfl
      rw [was] at served
      simp only [Option.some.injEq, Prod.mk.injEq] at served
      exact different served.1.symm
    exact ⟨id, other, by rw [changed, Function.update_of_ne away, served]⟩

/-- Who holds a slot after a use of the pool. -/
theorem Effect.hosts_iff (effect : Effect pool now op reply after) (sound : pool.Sound)
    (projectId : String) :
    after.Hosts projectId ↔
      match op.booking? reply with
      | none => pool.Hosts projectId
      | some (.claim _ claimant) => projectId = claimant ∨ pool.Hosts projectId
      | some (.free _ leaver) => projectId ≠ leaver ∧ pool.Hosts projectId := by
  have transfers := effect.transfers sound
  cases booking : op.booking? reply with
  | none => exact hosts_of_still (booking ▸ transfers)
  | some booked =>
      cases booked with
      | claim slot claimant => exact hosts_of_claim (booking ▸ transfers)
      | free slot leaver => exact hosts_of_free (booking ▸ transfers)

theorem Sound.holder?_eq_none_iff_not_hosts (sound : pool.Sound) :
    pool.holder? projectId = none ↔ ¬ pool.Hosts projectId := by
  refine ⟨sound.not_hosts, ?_⟩
  intro unheld
  cases holder : pool.holder? projectId with
  | none => rfl
  | some slot => exact absurd ⟨slot.id, slot.sessionId, tenant?_of_holder? sound holder⟩ unheld

/-- A slot keeps its tenant through a use that does not free it. -/
theorem Effect.tenant_kept (effect : Effect pool now op reply after) (sound : pool.Sound)
    {slot : SlotId} {sessionId : String} (served : pool.tenant? slot = some (projectId, sessionId))
    (kept : op.booking? reply ≠ some (.free slot projectId)) :
    after.tenant? slot = some (projectId, sessionId) := by
  have transfers := effect.transfers sound
  cases booking : op.booking? reply with
  | none =>
      rw [booking] at transfers
      exact (congrFun transfers slot).trans served
  | some booked =>
      rw [booking] at transfers kept
      cases booked with
      | claim claimed claimant =>
          obtain ⟨free, -, session, changed⟩ := transfers
          have away : slot ≠ claimed := by
            intro same
            rw [← same, served] at free
            contradiction
          rw [changed, Function.update_of_ne away, served]
      | free freed leaver =>
          obtain ⟨⟨session, was⟩, -, changed⟩ := transfers
          have away : slot ≠ freed := by
            intro same
            rw [← same, served] at was
            simp only [Option.some.injEq, Prod.mk.injEq] at was
            exact kept (by rw [same, was.1])
          rw [changed, Function.update_of_ne away, served]

/-- A slot keeps its tenant until its project is freed. -/
theorem Effect.tenant_stays (effect : Effect pool now op reply after) (sound : pool.Sound)
    {slot : SlotId} {sessionId : String} (served : pool.tenant? slot = some (projectId, sessionId))
    (kept : op ≠ .free projectId) : after.tenant? slot = some (projectId, sessionId) :=
  effect.tenant_kept sound served fun freed => kept (PoolOp.op_of_free freed)

theorem run_tenant_stays (sound : pool.Sound) {slot : SlotId} {sessionId : String}
    (served : pool.tenant? slot = some (projectId, sessionId)) (history : List Use)
    (kept : ∀ use ∈ history, use.op ≠ .free projectId) :
    (pool.run history).tenant? slot = some (projectId, sessionId) := by
  induction history generalizing pool with
  | nil => exact served
  | cons use later ih =>
      have effect := perform_effect sound use.now use.op
      have stays := effect.tenant_stays sound served (kept use (by simp))
      exact ih (sound.next use) stays fun other member => kept other (by simp [member])

/-! ### Those who wait -/

theorem waits_congr (same : after.waiting = pool.waiting) :
    after.Waits projectId ↔ pool.Waits projectId := by
  simp only [Waits, same]

theorem waits_append {front back : List Request} (queue : after.waiting = front ++ back) :
    after.Waits projectId ↔
      (∃ request ∈ front, request.projectId = projectId) ∨
        ∃ request ∈ back, request.projectId = projectId := by
  simp [Waits, queue, or_and_right, exists_or]

/-- Whoever waits has waited before or was let wait just now. -/
theorem Effect.waits_cases (effect : Effect pool now op reply after)
    (waits : after.Waits projectId) :
    pool.Waits projectId ∨ op.accepted? reply = some projectId := by
  obtain ⟨request, member, own⟩ := waits
  have before (kept : after.waiting.Sublist pool.waiting) : pool.Waits projectId :=
    ⟨request, kept.subset member, own⟩
  cases effect with
  | unchanged | claimed | freed | kept | adjusted => exact .inl (before (List.Sublist.refl _))
  | emptied => exact .inl (before (List.nil_sublist _))
  | dequeued _ _ queue => exact .inl (before (by simp [queue]))
  | served _ _ _ _ _ queue => exact .inl (before (by simp [queue]))
  | withdrawn _ _ _ _ queue => exact .inl (before (by simp [queue]))
  | entered entered named absent room =>
      rcases List.mem_append.mp member with earlier | last
      · exact .inl ⟨request, earlier, own⟩
      · rw [List.mem_singleton.mp last] at own
        exact .inr (congrArg some own)

/-- Only who waits gets a slot from the queue. -/
theorem Effect.served_waited {slot : SlotId} {request : Request}
    (effect : Effect pool now .claimNext (some (slot, request)) after) :
    pool.Waits request.projectId := by
  cases effect with
  | unchanged _ _ quiet => exact quiet.elim
  | adjusted _ _ quiet => exact quiet.elim
  | served discarded request rest row slots queue => exact ⟨request, by simp [queue], rfl⟩

theorem Effect.served_unheld {slot : SlotId} {request : Request}
    (effect : Effect pool now .claimNext (some (slot, request)) after) :
    pool.holder? request.projectId = none := by
  cases effect with
  | unchanged _ _ quiet => exact quiet.elim
  | adjusted _ _ quiet => exact quiet.elim
  | served discarded request rest row slots queue held unheld => exact unheld

/-- A project that got a slot from the queue does not wait any more. -/
theorem Effect.served_unqueued (sound : pool.Sound) {slot : SlotId} {request : Request}
    (effect : Effect pool now .claimNext (some (slot, request)) after) :
    ¬ after.Waits request.projectId := by
  cases effect with
  | unchanged _ _ quiet => exact quiet.elim
  | adjusted _ _ quiet => exact quiet.elim
  | served discarded request rest row slots queue =>
      rintro ⟨other, member, own⟩
      exact (sound.other_projects queue).2 other member own

/-- Who got a slot and waits all the same got it by name, not from the queue. -/
theorem Effect.claim_of_waits (effect : Effect pool now op reply after) (sound : pool.Sound)
    {slot : SlotId} (claimed : op.booking? reply = some (.claim slot projectId))
    (waits : after.Waits projectId) : ∃ sessionId, op = .claim slot projectId sessionId := by
  cases op with
  | claim place claimant session =>
      cases reply with
      | ok done =>
          simp only [PoolOp.booking?, Option.some.injEq, Booking.claim.injEq] at claimed
          exact ⟨session, by rw [claimed.1, claimed.2]⟩
      | error reason => contradiction
  | claimNext =>
      cases reply with
      | some served =>
          simp only [PoolOp.booking?, Option.some.injEq, Booking.claim.injEq] at claimed
          exact absurd (claimed.2 ▸ waits) (effect.served_unqueued sound)
      | none => contradiction
  | free leaver => cases reply <;> simp [PoolOp.booking?] at claimed
  | _ => contradiction

/-- Taking one request out of a queue takes its project out, and no other. -/
theorem waits_of_removed (sound : pool.Sound) {front rest : List Request} {request : Request}
    (queue : pool.waiting = front ++ request :: rest) (kept : after.waiting = front ++ rest) :
    after.Waits projectId ↔ pool.Waits projectId ∧ projectId ≠ request.projectId := by
  obtain ⟨ahead, behind⟩ := sound.other_projects queue
  rw [waits_append kept, waits_append queue]
  constructor
  · rintro (⟨other, member, rfl⟩ | ⟨other, member, rfl⟩)
    · exact ⟨.inl ⟨other, member, rfl⟩, ahead other member⟩
    · exact ⟨.inr ⟨other, by simp [member], rfl⟩, behind other member⟩
  · rintro ⟨⟨other, member, rfl⟩ | ⟨other, member, rfl⟩, different⟩
    · exact .inl ⟨other, member, rfl⟩
    · rcases List.mem_cons.mp member with rfl | inRest
      · exact absurd rfl different
      · exact .inr ⟨other, inRest, rfl⟩

theorem waits_of_popped (sound : pool.Sound) {rest : List Request} {request : Request}
    (queue : pool.waiting = request :: rest) (kept : after.waiting = rest) :
    after.Waits projectId ↔ pool.Waits projectId ∧ projectId ≠ request.projectId :=
  waits_of_removed sound (show pool.waiting = [] ++ request :: rest from queue) kept

/-- Who waits after a use of a pool. Serving the queue drops whoever holds a slot already, so there
nobody may both hold one and wait. -/
theorem Effect.waits_iff (effect : Effect pool now op reply after) (sound : pool.Sound)
    (apart : op = .claimNext → ∀ projectId, pool.Hosts projectId → ¬ pool.Waits projectId)
    (projectId : String) :
    after.Waits projectId ↔
      (pool.Waits projectId ∧ ∀ request ∈ op.handed reply, projectId ≠ request.projectId) ∨
        op.accepted? reply = some projectId := by
  -- Where the queue stays as it is, nothing is handed out and nobody is accepted.
  have still {op : PoolOp} {reply : op.Reply} {after : Pool} (same : after.waiting = pool.waiting)
      (nothing : op.handed reply = []) (nobody : op.accepted? reply = none) :
      after.Waits projectId ↔
        (pool.Waits projectId ∧ ∀ request ∈ op.handed reply, projectId ≠ request.projectId) ∨
          op.accepted? reply = some projectId := by
    simp [waits_congr same, nothing, nobody]
  have unheld (serves : op = .claimNext) :
      ∀ request ∈ pool.waiting, pool.holder? request.projectId = none := by
    intro request member
    rw [sound.holder?_eq_none_iff_not_hosts]
    exact fun held => apart serves _ held ⟨request, member, rfl⟩
  cases effect with
  | unchanged op reply quiet =>
      exact still rfl (handed_of_isQuiet quiet) (PoolOp.accepted?_of_isQuiet quiet)
  | adjusted op reply quiet =>
      exact still rfl (handed_of_isQuiet quiet) (PoolOp.accepted?_of_isQuiet quiet)
  | claimed | freed => exact still rfl rfl rfl
  | kept request place found =>
      have waits : pool.Waits request.projectId := by
        by_contra absent
        have missing : pool.position? request.projectId = none :=
          position?_eq_none_iff.mpr fun other member same => absent ⟨other, member, same⟩
        rw [missing] at found
        contradiction
      simp only [PoolOp.handed, PoolOp.accepted?, List.not_mem_nil, false_implies, implies_true,
        and_true, Option.some.injEq]
      constructor
      · exact .inl
      · rintro (waited | rfl)
        · exact waited
        · exact waits
  | entered request named absent room =>
      simp [PoolOp.handed, PoolOp.accepted?, Waits]
  | dequeued request rest queue =>
      have fewer : Waits { pool with waiting := rest } projectId ↔
          pool.Waits projectId ∧ projectId ≠ request.projectId := waits_of_popped sound queue rfl
      simpa [PoolOp.handed, PoolOp.accepted?] using fewer
  | emptied held =>
      have empty : pool.waiting = [] := by
        refine List.eq_nil_iff_forall_not_mem.mpr ?_
        intro request member
        simpa [unheld rfl request member] using held request member
      exact still empty.symm rfl rfl
  | served discarded request rest slot slots queue held =>
      have none : discarded = [] := by
        refine List.eq_nil_iff_forall_not_mem.mpr ?_
        intro other member
        simpa [unheld rfl other (by simp [queue, member])] using held other member
      subst none
      have fewer : Waits { pool with slots, waiting := rest } projectId ↔
          pool.Waits projectId ∧ projectId ≠ request.projectId := waits_of_popped sound queue rfl
      simpa [PoolOp.handed, PoolOp.accepted?] using fewer
  | withdrawn leaver front request rest queue ahead own =>
      have fewer : Waits { pool with waiting := front ++ rest } projectId ↔
          pool.Waits projectId ∧ projectId ≠ request.projectId := waits_of_removed sound queue rfl
      simpa [PoolOp.handed, PoolOp.accepted?] using fewer

/-- A withdrawal takes its project out of the queue, and no other. -/
theorem withdraw_waits (sound : pool.Sound) {leaver : String} :
    (pool.withdraw leaver).2.Waits projectId ↔ pool.Waits projectId ∧ projectId ≠ leaver := by
  unfold withdraw
  split
  · next missing =>
    refine ⟨fun waits => ⟨waits, ?_⟩, And.left⟩
    rintro rfl
    obtain ⟨request, member, own⟩ := waits
    simpa [own] using List.find?_eq_none.mp missing request member
  · next request found =>
    obtain ⟨front, rest, queue, remaining, -, own⟩ := withdraw_split found
    have fewer : Waits { pool with waiting := pool.waiting.eraseP (·.projectId == leaver) }
        projectId ↔ pool.Waits projectId ∧ projectId ≠ request.projectId :=
      waits_of_removed sound queue remaining
    rwa [own] at fewer

/-! ### Placing and freeing -/

/-- A slot that is shown as free can be claimed for a project that holds none. -/
theorem claim_shown (sound : pool.Sound) {slot : SlotId} (shown : pool.firstFree? = some slot)
    (named : projectId ≠ "") (unheld : ¬ pool.Hosts projectId) (sessionId : String)
    (now : Millis) :
    (pool.claim slot projectId sessionId now).1 = .ok () := by
  obtain ⟨row, member, number, free⟩ := firstFree?_eq_some shown
  have found : pool.slot? slot = some row := (slot?_eq_some_iff sound).mpr ⟨member, number⟩
  have elsewhere : pool.holderElsewhere? projectId slot = none := by
    simp [holderElsewhere?, sound.holder?_eq_none_iff_not_hosts.mpr unheld]
  simp [claim, named, elsewhere, found, free]

theorem free_hosted (sound : pool.Sound) (hosted : pool.Hosts projectId) (now : Millis) :
    ∃ slot, (pool.free projectId now).1 = .ok slot := by
  cases holder : pool.holder? projectId with
  | none => exact absurd hosted (sound.not_hosts holder)
  | some slot => exact ⟨slot.id, by simp [free, holder]⟩

theorem hosts_before_free (sound : pool.Sound) {leaver : String}
    (hosts : (pool.free leaver now).2.Hosts projectId) : pool.Hosts projectId := by
  have changed := (free_effect.hosts_iff sound projectId).mp hosts
  cases freed : (pool.free leaver now).1 with
  | ok slot =>
      rw [freed] at changed
      exact changed.2
  | error reason =>
      rw [freed] at changed
      exact changed

/-- Only who does not wait can find the queue full. -/
theorem enqueue_full {request : Request} {capacity : Nat}
    (full : (pool.enqueue request).1 = .error (.queueFull capacity)) :
    (pool.enqueue request).2 = pool ∧ ¬ pool.Waits request.projectId := by
  revert full
  unfold enqueue
  split
  · simp
  · split
    · simp
    · next missing =>
      split
      · intro _
        refine ⟨rfl, ?_⟩
        rintro ⟨other, member, same⟩
        exact position?_eq_none_iff.mp missing other member same
      · simp

end Pool

end WorkspacePool
