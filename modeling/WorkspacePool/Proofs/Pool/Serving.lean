import Mathlib.Data.List.TakeWhile
import WorkspacePool.Proofs.Pool.Frame

/-!
What serving the queue comes to. With a free slot, the requests at the head of the queue whose
projects hold slots are dropped, and the first behind them gets the lowest-numbered free slot;
without one, nothing changes. The same is told once more round by round: a round that took a
request out of the queue never finds the slot missing, and the rounds come to an end.
-/

namespace WorkspacePool.Pool

variable {pool : Pool} {slot row : Slot} {id : SlotId} {projectId : String} {request : Request}
  {now : Millis}

/-! ### The lowest free slot -/

/-- A free slot of the pool with the lowest number. -/
structure LowestFree (pool : Pool) (slot : Slot) : Prop where
  member : slot ∈ pool.slots
  free : slot.isBusy = false
  lowest : ∀ other ∈ pool.slots, other.isBusy = false → slot.id.number ≤ other.id.number

theorem Sound.ascending (sound : pool.Sound) :
    pool.slots.Pairwise fun first second => first.id.number < second.id.number := by
  have numbers : (pool.slots.map (·.id.number.toNat)).Pairwise (· < ·) := by
    rw [sound.numbered]
    exact List.pairwise_lt_range'
  exact (List.pairwise_map.mp numbers).imp UInt32.lt_iff_toNat_lt.mpr

theorem firstFree?_eq_none_iff :
    pool.firstFree? = none ↔ ∀ slot ∈ pool.slots, slot.isBusy = true := by
  simp [firstFree?]

theorem Sound.lowestFree_of_firstFree? (sound : pool.Sound) (first : pool.firstFree? = some id) :
    ∃ slot, slot.id = id ∧ pool.LowestFree slot := by
  obtain ⟨slot, found, rfl⟩ := Option.map_eq_some_iff.mp first
  obtain ⟨free, front, back, split, busy⟩ := List.find?_eq_some_iff_append.mp found
  have ascending := sound.ascending
  refine ⟨slot, rfl, List.mem_of_find?_eq_some found, by simpa using free, ?_⟩
  intro other member otherFree
  rw [split] at member ascending
  rcases List.mem_append.mp member with inFront | behind
  · have otherBusy := busy other inFront
    simp [otherFree] at otherBusy
  · rcases List.mem_cons.mp behind with rfl | inBack
    · exact UInt32.le_refl _
    · have later := (List.pairwise_cons.mp (List.pairwise_append.mp ascending).2.1).1
      exact UInt32.le_of_lt (later other inBack)

theorem LowestFree.unique (sound : pool.Sound) {left right : Slot} (lowest : pool.LowestFree left)
    (lowestToo : pool.LowestFree right) : left = right := by
  refine sound.same_row lowest.member lowestToo.member ?_
  have same := UInt32.le_antisymm (lowest.lowest right lowestToo.member lowestToo.free)
    (lowestToo.lowest left lowest.member lowest.free)
  exact congrArg SlotId.mk same

theorem LowestFree.firstFree? (sound : pool.Sound) (lowest : pool.LowestFree slot) :
    pool.firstFree? = some slot.id := by
  cases first : pool.firstFree? with
  | none =>
      have busy := firstFree?_eq_none_iff.mp first slot lowest.member
      rw [lowest.free] at busy
      contradiction
  | some id =>
      obtain ⟨other, rfl, lowestToo⟩ := sound.lowestFree_of_firstFree? first
      rw [lowest.unique sound lowestToo]

/-! ### Seats -/

/-- A project runs in a slot of its own, with a session, and holds no other slot. -/
structure Seats (pool : Pool) (id : SlotId) (projectId sessionId : String) : Prop where
  row : ∃ row, pool.slot? id = some row ∧ row.holds projectId = true ∧
    row.sessionId = sessionId ∧ row.status = .running
  only : ∀ other ∈ pool.slots, other.holds projectId = true → other.id = id

theorem Sound.seats (sound : pool.Sound) (member : row ∈ pool.slots)
    (holds : row.holds projectId = true) (running : row.status = .running) :
    pool.Seats row.id projectId row.sessionId := by
  refine ⟨⟨row, (slot?_eq_some_iff sound).mpr ⟨member, rfl⟩, holds, rfl, running⟩, ?_⟩
  intro other otherMember otherHolds
  obtain ⟨busy, -, own⟩ := Slot.holds_iff.mp holds
  obtain ⟨otherBusy, -, otherOwn⟩ := Slot.holds_iff.mp otherHolds
  exact congrArg Slot.id
    (sound.same_holder otherMember member otherBusy busy (otherOwn.trans own.symm))

/-- A project that is given a slot is seated there. -/
theorem seats_of_replaced {sessionId : String} (sound : pool.Sound) (named : projectId ≠ "")
    {before : List Slot}
    (replaced : Replaced row (row.occupy projectId sessionId now) before pool.slots) :
    pool.Seats row.id projectId sessionId :=
  sound.seats replaced.new_mem (by simp [Slot.holds, Slot.occupy, named]) rfl

/-! ### Serving in one step -/

/-- Whether a request is of a project that holds a slot. -/
def seated (pool : Pool) (request : Request) : Bool :=
  pool.slots.any (·.holds request.projectId)

theorem isSome_holder? :
    (pool.holder? request.projectId).isSome = pool.seated request := by
  rw [Bool.eq_iff_iff]
  simp [holder?, seated]

theorem claimNext_of_full (full : ∀ slot ∈ pool.slots, slot.isBusy = true) (now : Millis) :
    pool.claimNext now = (none, pool) := by
  have none := firstFree?_eq_none_iff.mpr full
  obtain ⟨slots, waiting, capacity⟩ := pool
  cases waiting with
  | nil => rfl
  | cons request rest => simp [claimNext, claimFor, none]

/-- With a free slot, serving goes by what is left of the queue behind the requests that are seated
already. -/
theorem LowestFree.claimNext_eq (sound : pool.Sound) (lowest : pool.LowestFree slot)
    (now : Millis) :
    match pool.waiting.dropWhile pool.seated with
    | [] => pool.claimNext now = (none, { pool with waiting := [] })
    | request :: later => ∃ slots,
        Replaced slot (slot.occupy request.projectId request.sessionId now) pool.slots slots ∧
          pool.claimNext now =
            (some (slot.id, request), { pool with slots, waiting := later }) := by
  have first := lowest.firstFree? sound
  rcases claimFor_cases sound now pool.waiting with ⟨full, -⟩ | ⟨held, result⟩ |
    ⟨dropped, request, later, row, slots, queue, held, unheld, shown, -, replaced, result⟩
  · simp [first] at full
  · simp only [isSome_holder?] at held
    rw [List.dropWhile_eq_nil_iff.mpr held]
    exact result
  · simp only [isSome_holder?] at held
    have stands : pool.seated request = false := by rw [← isSome_holder?, unheld]; rfl
    rw [queue, List.dropWhile_append_of_pos held, List.dropWhile_cons_of_neg (by simp [stands])]
    obtain rfl : slot = row := sound.same_row lowest.member replaced.old_mem
      (Option.some.inj (first.symm.trans shown))
    exact ⟨slots, replaced, result⟩

/-! ### Serving in rounds -/

/-- How a round ends: serving is over, the request at the head was dropped and another round
follows, or a request was taken out for a slot that is not there. -/
inductive Round where
  | ended (result : Option (SlotId × Request)) (pool : Pool)
  | dropped (pool : Pool)
  | lost (request : Request) (pool : Pool)

/-- One round: look for a free slot, take the head of the queue, and hand it the slot unless its
project has one. -/
def round (pool : Pool) (now : Millis) : Round :=
  match pool.firstFree? with
  | none => .ended none pool
  | some id =>
      match pool.dequeue with
      | (none, after) => .ended none after
      | (some request, after) =>
          if (after.holder? request.projectId).isSome then .dropped after
          else
            match after.slot? id with
            | none => .lost request after
            | some _ =>
                .ended (some (id, request))
                  (after.updateSlot id (·.occupy request.projectId request.sessionId now))

/-- Go on while requests are dropped, for so many rounds at most, and tell how the last one
ended. -/
def rounds (now : Millis) : Nat → Pool → Option Round
  | 0, _ => none
  | limit + 1, pool =>
      match pool.round now with
      | .dropped after => after.rounds now limit
      | last => some last

/-- A slot that was found free is there to be handed out. -/
theorem Sound.slot?_of_firstFree? (sound : pool.Sound) (first : pool.firstFree? = some id) :
    ∃ slot, pool.slot? id = some slot := by
  obtain ⟨slot, member, number, -⟩ := firstFree?_eq_some first
  exact ⟨slot, (slot?_eq_some_iff sound).mpr ⟨member, number⟩⟩

/-- With a request waiting, a round that found a slot drops the request or is the last. -/
theorem round_eq (sound : pool.Sound) (first : pool.firstFree? = some id) (request : Request)
    (rest : List Request) (now : Millis) :
    round { pool with waiting := request :: rest } now =
      if (pool.holder? request.projectId).isSome then .dropped { pool with waiting := rest }
      else .ended (some (id, request))
        { pool.updateSlot id (·.occupy request.projectId request.sessionId now) with
          waiting := rest } := by
  obtain ⟨slot, found⟩ := sound.slot?_of_firstFree? first
  have looked : round { pool with waiting := request :: rest } now =
      match pool.firstFree? with
      | none => .ended none { pool with waiting := request :: rest }
      | some id =>
          if (pool.holder? request.projectId).isSome then .dropped { pool with waiting := rest }
          else
            match pool.slot? id with
            | none => .lost request { pool with waiting := rest }
            | some _ => .ended (some (id, request))
                { pool.updateSlot id (·.occupy request.projectId request.sessionId now) with
                  waiting := rest } := rfl
  simp only [looked, first, found]

theorem claimFor_eq (sound : pool.Sound) (first : pool.firstFree? = some id) (request : Request)
    (rest : List Request) (now : Millis) :
    pool.claimFor now (request :: rest) =
      if (pool.holder? request.projectId).isSome then pool.claimFor now rest
      else (some (id, request),
        { pool.updateSlot id (·.occupy request.projectId request.sessionId now) with
          waiting := rest }) := by
  obtain ⟨slot, found⟩ := sound.slot?_of_firstFree? first
  simp only [claimFor, first, found]

theorem rounds_eq_claimFor (sound : pool.Sound) (now : Millis) (waiting : List Request)
    {limit : Nat} (enough : waiting.length < limit) :
    rounds now limit { pool with waiting } =
      some (.ended (pool.claimFor now waiting).1 (pool.claimFor now waiting).2) := by
  obtain ⟨limit, rfl⟩ := Nat.exists_eq_add_one.mpr (Nat.zero_lt_of_lt enough)
  cases first : pool.firstFree? with
  | none =>
      have last : round { pool with waiting } now = .ended none { pool with waiting } := by
        simp only [firstFree?] at first
        simp [round, firstFree?, first]
      rw [rounds, last]
      cases waiting <;> simp [claimFor, first]
  | some id =>
      -- Dropping requests changes no slot, so that every round finds the same one free.
      induction waiting generalizing limit with
      | nil =>
          simp only [firstFree?] at first
          simp [rounds, round, firstFree?, first, dequeue, claimFor]
      | cons request rest ih =>
          have fewer : rest.length < limit := Nat.lt_of_succ_lt_succ enough
          rw [rounds, round_eq sound first, claimFor_eq sound first]
          by_cases seated : (pool.holder? request.projectId).isSome = true
          · obtain ⟨limit, rfl⟩ := Nat.exists_eq_add_one.mpr (Nat.zero_lt_of_lt fewer)
            simp only [seated, if_true]
            exact ih limit fewer
          · simp only [seated, Bool.false_eq_true, if_false]

/-- Serving the queue. Without a free slot it changes nothing. Otherwise the requests at the head of
the queue that are seated already leave it, and the next one gets the lowest-numbered free slot,
running from now on; every other slot and the rest of the queue are as they were. Round by round it
comes to the same, in at most one round more than there are requests, and no round takes out a
request for a slot that is not there. -/
theorem claimNext_serves_first_unseated (sound : pool.Sound) (now : Millis) :
    ((∀ slot ∈ pool.slots, slot.isBusy = true) → pool.claimNext now = (none, pool)) ∧
    ((∃ slot ∈ pool.slots, slot.isBusy = false) → ∃ slot, pool.LowestFree slot ∧
      match pool.waiting.dropWhile pool.seated with
      | [] => pool.claimNext now = (none, { pool with waiting := [] })
      | request :: later => ∃ slots,
          Replaced slot ⟨slot.id, request.projectId, request.sessionId, true, .running, now⟩
            pool.slots slots ∧
          pool.claimNext now =
            (some (slot.id, request), { pool with slots, waiting := later })) ∧
    ∀ limit, pool.waiting.length < limit →
      pool.rounds now limit = some (.ended (pool.claimNext now).1 (pool.claimNext now).2) := by
  refine ⟨fun full => claimNext_of_full full now, ?_, fun limit => rounds_eq_claimFor sound now _⟩
  rintro ⟨slot, member, free⟩
  cases first : pool.firstFree? with
  | none => simp [firstFree?_eq_none_iff.mp first slot member] at free
  | some id =>
      obtain ⟨slot, rfl, lowest⟩ := sound.lowestFree_of_firstFree? first
      exact ⟨slot, lowest, lowest.claimNext_eq sound now⟩

/-- The first project got a slot while it waited, so that the second one is served. -/
theorem seated_request_is_dropped :
    let second : Request := ⟨"second", "", "", "session", "", "", 0⟩
    let pool := (create 2 2 0).run
      [⟨0, 0, .enqueue { second with projectId := "first" }⟩, ⟨0, 0, .enqueue second⟩,
        ⟨0, 0, .claim ⟨1⟩ "first" "session"⟩]
    pool.Sound ∧ (∃ slot, pool.LowestFree slot ∧ ∃ slots,
      Replaced slot ⟨slot.id, "second", "session", true, .running, 5⟩ pool.slots slots ∧
        pool.claimNext 5 = (some (slot.id, second), { pool with slots, waiting := [] })) ∧
      pool.rounds 5 3 = some (.ended (pool.claimNext 5).1 (pool.claimNext 5).2) := by
  intro second pool
  have sound : pool.Sound := (create_sound 2 2 0).run _
  have rest : pool.waiting.dropWhile pool.seated = [second] := by decide +kernel
  have served := claimNext_serves_first_unseated sound 5
  rw [rest] at served
  exact ⟨sound, served.2.1 (by decide +kernel), served.2.2 3 (by decide +kernel)⟩

end WorkspacePool.Pool
