import WorkspacePool.Proofs.Pool.Presence

/-!
How projects move between slots. A project that is in one slot before a history and in another one
after it was freed from the first and claimed the second in between, and a slot keeps its project
for as long as the project is not freed from it.
-/

namespace WorkspacePool.Pool

variable {pool after : Pool} {now : Millis} {op : PoolOp} {reply : op.Reply} {slot : SlotId}
  {projectId sessionId : String} {history : List Use}

@[simp] theorem bookings_cons (use : Use) (later : List Use) :
    pool.bookings (use :: later) =
      (pool.record use).booking?.toList ++ (pool.next use).bookings later := by
  cases booking : (pool.record use).booking? <;> simp [bookings, records, booking]

theorem Effect.tenant_arrives (effect : Effect pool now op reply after) (sound : pool.Sound)
    (elsewhere : ∀ session, pool.tenant? slot ≠ some (projectId, session))
    (served : after.tenant? slot = some (projectId, sessionId)) :
    op.booking? reply = some (.claim slot projectId) := by
  have transfers := effect.transfers sound
  cases booking : op.booking? reply with
  | none =>
      rw [booking] at transfers
      exact absurd ((congrFun transfers slot).symm.trans served) (elsewhere sessionId)
  | some booked =>
      rw [booking] at transfers
      cases booked with
      | claim claimed claimant =>
          obtain ⟨-, -, session, changed⟩ := transfers
          rw [changed] at served
          by_cases here : slot = claimed
          · rw [here, Function.update_self] at served
            simp only [Option.some.injEq, Prod.mk.injEq] at served
            rw [here, served.1]
          · rw [Function.update_of_ne here] at served
            exact absurd served (elsewhere sessionId)
      | free freed leaver =>
          obtain ⟨-, -, changed⟩ := transfers
          rw [changed] at served
          by_cases here : slot = freed
          · rw [here, Function.update_self] at served
            contradiction
          · rw [Function.update_of_ne here] at served
            exact absurd served (elsewhere sessionId)

theorem run_arrives (sound : pool.Sound) (history : List Use)
    (elsewhere : ∀ session, pool.tenant? slot ≠ some (projectId, session))
    (served : (pool.run history).tenant? slot = some (projectId, sessionId)) :
    .claim slot projectId ∈ pool.bookings history := by
  induction history generalizing pool with
  | nil => exact absurd served (elsewhere sessionId)
  | cons use later ih =>
      rw [bookings_cons]
      by_cases arrived : ∃ session, (pool.next use).tenant? slot = some (projectId, session)
      · obtain ⟨session, now⟩ := arrived
        have effect := perform_effect sound use.now use.op
        have claimed : (pool.record use).booking? = some (.claim slot projectId) :=
          effect.tenant_arrives sound elsewhere now
        simp [claimed]
      · have still := ih (sound.next use) (by simpa using arrived) served
        exact List.mem_append_right _ still

/-- A project that changed slots was freed from the one and claimed the other. -/
theorem run_moves (sound : pool.Sound) (history : List Use) {start finish : SlotId}
    {session : String} (before : pool.tenant? start = some (projectId, sessionId))
    (served : (pool.run history).tenant? finish = some (projectId, session))
    (apart : start ≠ finish) :
    [.free start projectId, .claim finish projectId].Sublist (pool.bookings history) := by
  induction history generalizing pool with
  | nil => exact absurd (sound.same_tenant before served) apart
  | cons use later ih =>
      rw [bookings_cons]
      have effect := perform_effect sound use.now use.op
      by_cases freed : (pool.record use).booking? = some (.free start projectId)
      · have gone : ∀ session, (pool.next use).tenant? finish ≠ some (projectId, session) := by
          intro session here
          have claimed : (pool.record use).booking? = some (.claim finish projectId) :=
            effect.tenant_arrives sound
              (fun other there => apart (sound.same_tenant before there)) here
          rw [freed] at claimed
          simp at claimed
        have claimed := run_arrives (sound.next use) later gone served
        rw [freed]
        exact (List.singleton_sublist.mpr claimed).cons_cons _
      · have stays := effect.tenant_kept sound before freed
        exact (ih (sound.next use) stays served).trans (List.sublist_append_right _ _)

end WorkspacePool.Pool
