import Mathlib.Data.List.Nodup
import Mathlib.Data.List.Pairwise
import Mathlib.Logic.Function.Basic
import WorkspacePool.Proofs.Pool.Rows

/-!
Sound pools. A pool is sound when its slots are numbered from one, every row is consistent, no
project holds two slots, and the queue is bounded and names no project twice. In a sound pool a
number tells a row and a project tells its holder, so the rows can be read as a table of tenants.
-/

namespace WorkspacePool.Pool

variable {pool : Pool} {slots : List Slot} {slot old new left right : Slot} {id : SlotId}
  {projectId sessionId : String}

/-- What every pool keeps to, whatever was done with it. -/
structure Sound (pool : Pool) : Prop where
  numbered : pool.slots.map (·.id.number.toNat) = List.range' 1 pool.slots.length
  consistent : ∀ slot ∈ pool.slots, slot.Consistent
  exclusive : pool.slots.Pairwise Slot.Apart
  bounded : pool.waiting.length ≤ pool.capacity
  named : ∀ request ∈ pool.waiting, request.projectId ≠ ""
  distinct : (pool.waiting.map (·.projectId)).Nodup

/-! ### Rows by number and by project -/

theorem Sound.ids_nodup (sound : pool.Sound) : (pool.slots.map (·.id)).Nodup := by
  have numbers : (pool.slots.map (·.id.number.toNat)).Nodup := by
    rw [sound.numbered]
    exact List.nodup_range'
  have mapped : (pool.slots.map (·.id)).map (·.number.toNat) =
      pool.slots.map (·.id.number.toNat) := by simp
  rw [← mapped] at numbers
  exact numbers.of_map

theorem Sound.same_row (sound : pool.Sound) (leftMember : left ∈ pool.slots)
    (rightMember : right ∈ pool.slots) (same : left.id = right.id) : left = right :=
  List.inj_on_of_nodup_map sound.ids_nodup leftMember rightMember same

/-- The rows beside a row have other numbers. -/
theorem Sound.other_ids (sound : pool.Sound) {front back : List Slot}
    (split : pool.slots = front ++ old :: back) :
    (∀ slot ∈ front, slot.id ≠ old.id) ∧ ∀ slot ∈ back, slot.id ≠ old.id := by
  have distinct := sound.ids_nodup
  rw [split, List.map_append, List.map_cons, List.nodup_append] at distinct
  obtain ⟨-, behind, across⟩ := distinct
  constructor
  · intro slot member
    exact across _ (List.mem_map_of_mem member) _ (by simp)
  · intro slot member same
    exact (List.nodup_cons.mp behind).1 (same ▸ List.mem_map_of_mem member)

theorem slot?_eq_some_iff (sound : pool.Sound) :
    pool.slot? id = some slot ↔ slot ∈ pool.slots ∧ slot.id = id := by
  constructor
  · intro found
    exact ⟨List.mem_of_find?_eq_some found, by simpa using List.find?_some found⟩
  · rintro ⟨member, rfl⟩
    cases lookup : pool.slot? slot.id with
    | none =>
        have absent := List.find?_eq_none.mp lookup slot member
        simp at absent
    | some other =>
        have same : other.id = slot.id := by simpa using List.find?_some lookup
        rw [sound.same_row (List.mem_of_find?_eq_some lookup) member same]

theorem Sound.same_holder (sound : pool.Sound) (leftMember : left ∈ pool.slots)
    (rightMember : right ∈ pool.slots) (leftBusy : left.isBusy = true)
    (rightBusy : right.isBusy = true) (same : left.projectId = right.projectId) :
    left = right := by
  by_contra different
  have symmetric : Std.Symm Slot.Apart := ⟨fun _ _ => Slot.Apart.symm⟩
  exact sound.exclusive.forall leftMember rightMember different leftBusy rightBusy same

theorem holder?_eq_some_iff (sound : pool.Sound) :
    pool.holder? projectId = some slot ↔ slot ∈ pool.slots ∧ slot.holds projectId = true := by
  constructor
  · intro found
    have held := List.find?_some (p := fun row : Slot => row.holds projectId) found
    exact ⟨List.mem_of_find?_eq_some found, held⟩
  · rintro ⟨member, held⟩
    cases lookup : pool.holder? projectId with
    | none => exact absurd held (List.find?_eq_none.mp lookup slot member)
    | some other =>
        have otherHolds := List.find?_some (p := fun row : Slot => row.holds projectId) lookup
        have otherHeld := Slot.holds_iff.mp otherHolds
        have slotHeld := Slot.holds_iff.mp held
        rw [sound.same_holder (List.mem_of_find?_eq_some lookup) member otherHeld.1 slotHeld.1
          (otherHeld.2.2.trans slotHeld.2.2.symm)]

theorem holder?_eq_none_iff :
    pool.holder? projectId = none ↔ ∀ slot ∈ pool.slots, slot.holds projectId = false := by
  simp [holder?]

theorem firstFree?_eq_some (found : pool.firstFree? = some id) :
    ∃ slot ∈ pool.slots, slot.id = id ∧ slot.isBusy = false := by
  obtain ⟨slot, lookup, rfl⟩ := Option.map_eq_some_iff.mp found
  exact ⟨slot, List.mem_of_find?_eq_some lookup, rfl, by simpa using List.find?_some lookup⟩

/-- The requests beside a request are of other projects. -/
theorem Sound.other_projects (sound : pool.Sound) {front rest : List Request} {request : Request}
    (queue : pool.waiting = front ++ request :: rest) :
    (∀ other ∈ front, other.projectId ≠ request.projectId) ∧
      ∀ other ∈ rest, other.projectId ≠ request.projectId := by
  have distinct := sound.distinct
  rw [queue, List.map_append, List.map_cons, List.nodup_append] at distinct
  obtain ⟨-, behind, across⟩ := distinct
  constructor
  · intro other member
    exact across _ (List.mem_map_of_mem member) _ (by simp)
  · intro other member same
    exact (List.nodup_cons.mp behind).1 (same ▸ List.mem_map_of_mem member)

/-! ### New rows and new queues -/

/-- A row may be replaced by a consistent one of the same number whose project no other slot
holds. -/
theorem Sound.replace (sound : pool.Sound) (replaced : Replaced old new pool.slots slots)
    (sameId : new.id = old.id) (consistent : new.Consistent)
    (alone : new.isBusy = true → ∀ slot ∈ pool.slots, slot.id ≠ old.id → slot.isBusy = true →
      slot.projectId ≠ new.projectId) : Sound { pool with slots } := by
  refine ⟨?_, ?_, ?_, sound.bounded, sound.named, sound.distinct⟩
  · change slots.map (·.id.number.toNat) = List.range' 1 slots.length
    rw [replaced.map_eq (·.id.number.toNat) (by rw [sameId]), replaced.length_eq]
    exact sound.numbered
  · intro slot member
    rcases replaced.mem_cases member with rfl | earlier
    · exact consistent
    · exact sound.consistent slot earlier
  · obtain ⟨front, back, split, rfl⟩ := replaced
    obtain ⟨frontIds, backIds⟩ := sound.other_ids split
    have exclusive := sound.exclusive
    rw [split] at exclusive alone
    simp only [List.pairwise_append, List.pairwise_cons, List.mem_cons] at exclusive ⊢
    obtain ⟨inFront, ⟨-, inBack⟩, across⟩ := exclusive
    refine ⟨inFront, ⟨?_, inBack⟩, ?_⟩
    · intro slot member newBusy slotBusy same
      exact alone newBusy slot (by simp [member]) (backIds slot member) slotBusy same.symm
    · intro first firstMember second secondMember
      rcases secondMember with rfl | secondMember
      · intro firstBusy newBusy
        exact alone newBusy first (by simp [firstMember]) (frontIds first firstMember) firstBusy
      · exact across first firstMember second (.inr secondMember)

theorem Sound.occupy (sound : pool.Sound) {now : Millis} (named : projectId ≠ "")
    (unheld : pool.holder? projectId = none)
    (replaced : Replaced slot (slot.occupy projectId sessionId now) pool.slots slots) :
    Sound { pool with slots } := by
  refine sound.replace replaced rfl (slot.occupy_consistent sessionId now named) ?_
  intro _ other member _ busy same
  have held : other.holds projectId = true :=
    (sound.consistent other member).holds_iff.mpr ⟨busy, same⟩
  rw [holder?_eq_none_iff.mp unheld other member] at held
  contradiction

theorem Sound.keep (sound : pool.Sound) {waiting : List Request}
    (kept : waiting.Sublist pool.waiting) : Sound { pool with waiting } :=
  ⟨sound.numbered, sound.consistent, sound.exclusive, Nat.le_trans kept.length_le sound.bounded,
    fun request member => sound.named request (kept.subset member),
    sound.distinct.sublist (kept.map _)⟩

theorem Sound.append (sound : pool.Sound) {request : Request} (named : request.projectId ≠ "")
    (absent : ∀ other ∈ pool.waiting, other.projectId ≠ request.projectId)
    (room : pool.waiting.length < pool.capacity) :
    Sound { pool with waiting := pool.waiting ++ [request] } := by
  refine ⟨sound.numbered, sound.consistent, sound.exclusive, ?_, ?_, ?_⟩
  · simpa [Nat.succ_le_iff] using room
  · intro other member
    rcases List.mem_append.mp member with earlier | last
    · exact sound.named other earlier
    · rw [List.mem_singleton.mp last]
      exact named
  · simp only [List.map_append, List.map_cons, List.map_nil]
    refine List.nodup_append.mpr ⟨sound.distinct, by simp, ?_⟩
    intro left leftMember right rightMember
    obtain ⟨other, member, rfl⟩ := List.mem_map.mp leftMember
    rw [List.mem_singleton.mp rightMember]
    exact absent other member

theorem create_sound (slotCount : UInt32) (capacity : Nat) (now : Millis) :
    (create slotCount capacity now).Sound := by
  have bound : slotCount.toNat < 2 ^ 32 := slotCount.toNat_lt
  refine ⟨?_, ?_, ?_, by simp [create], by simp [create], by simp [create]⟩
  · simp only [create, List.map_map, List.length_map, List.length_range, List.range'_eq_map_range]
    refine List.map_congr_left ?_
    intro index member
    have small : index < slotCount.toNat := List.mem_range.mp member
    simp only [Function.comp_apply, Slot.free, UInt32.toNat_ofNat']
    omega
  · intro slot member
    obtain ⟨index, -, rfl⟩ := List.mem_map.mp member
    exact Slot.free_consistent _ now
  · refine List.pairwise_map.mpr (List.pairwise_of_forall ?_)
    intro left right busy
    simp [Slot.free] at busy

/-! ### Tenants -/

/-- The project and the session that the slot of a number serves. -/
def tenant? (pool : Pool) (id : SlotId) : Option (String × String) :=
  (pool.slot? id).bind Slot.tenant?

theorem tenant?_eq_some_iff (sound : pool.Sound) :
    pool.tenant? id = some (projectId, sessionId) ↔
      ∃ slot ∈ pool.slots, slot.id = id ∧ slot.holds projectId = true ∧
        slot.sessionId = sessionId := by
  constructor
  · intro found
    obtain ⟨slot, lookup, served⟩ := Option.bind_eq_some_iff.mp found
    obtain ⟨member, number⟩ := (slot?_eq_some_iff sound).mp lookup
    cases busy : slot.isBusy with
    | false =>
        rw [Slot.tenant?_of_free busy] at served
        contradiction
    | true =>
        simp only [Slot.tenant?_of_busy busy, Option.some.injEq, Prod.mk.injEq] at served
        exact ⟨slot, member, number,
          (sound.consistent slot member).holds_iff.mpr ⟨busy, served.1⟩, served.2⟩
  · rintro ⟨slot, member, number, held, rfl⟩
    obtain ⟨busy, -, rfl⟩ := Slot.holds_iff.mp held
    have lookup := (slot?_eq_some_iff sound).mpr ⟨member, number⟩
    simp [tenant?, lookup, Slot.tenant?_of_busy busy]

theorem create_tenant? (slotCount : UInt32) (capacity : Nat) (now : Millis) (id : SlotId) :
    (create slotCount capacity now).tenant? id = none := by
  refine Option.bind_eq_none_iff.mpr ?_
  intro row found
  obtain ⟨index, -, rfl⟩ := List.mem_map.mp (List.mem_of_find?_eq_some found)
  rfl

theorem tenant?_of_mem (sound : pool.Sound) (member : slot ∈ pool.slots) :
    pool.tenant? slot.id = slot.tenant? := by
  have lookup := (slot?_eq_some_iff sound).mpr ⟨member, rfl⟩
  simp [tenant?, lookup]

theorem tenant?_of_free (sound : pool.Sound) (member : slot ∈ pool.slots)
    (free : slot.isBusy = false) : pool.tenant? slot.id = none := by
  rw [tenant?_of_mem sound member, Slot.tenant?_of_free free]

theorem tenant?_of_holds (sound : pool.Sound) (member : slot ∈ pool.slots)
    (held : slot.holds projectId = true) :
    pool.tenant? slot.id = some (projectId, slot.sessionId) :=
  (tenant?_eq_some_iff sound).mpr ⟨slot, member, rfl, held, rfl⟩

theorem Sound.same_tenant (sound : pool.Sound) {leftId rightId : SlotId}
    {leftSession rightSession : String}
    (leftServed : pool.tenant? leftId = some (projectId, leftSession))
    (rightServed : pool.tenant? rightId = some (projectId, rightSession)) :
    leftId = rightId := by
  obtain ⟨left, leftMember, rfl, leftHeld, -⟩ := (tenant?_eq_some_iff sound).mp leftServed
  obtain ⟨right, rightMember, rfl, rightHeld, -⟩ := (tenant?_eq_some_iff sound).mp rightServed
  obtain ⟨leftBusy, -, leftProject⟩ := Slot.holds_iff.mp leftHeld
  obtain ⟨rightBusy, -, rightProject⟩ := Slot.holds_iff.mp rightHeld
  rw [sound.same_holder leftMember rightMember leftBusy rightBusy
    (leftProject.trans rightProject.symm)]

theorem tenant?_ne_of_unheld (sound : pool.Sound) (unheld : pool.holder? projectId = none) :
    pool.tenant? id ≠ some (projectId, sessionId) := by
  intro served
  obtain ⟨slot, member, -, held, -⟩ := (tenant?_eq_some_iff sound).mp served
  have free := holder?_eq_none_iff.mp unheld slot member
  rw [held] at free
  contradiction

/-- Replacing a row changes the tenant of its number only. -/
theorem tenant?_replace (sound : pool.Sound) (replaced : Replaced old new pool.slots slots)
    (sameId : new.id = old.id) :
    tenant? { pool with slots } = Function.update pool.tenant? old.id new.tenant? := by
  obtain ⟨front, back, split, rfl⟩ := replaced
  obtain ⟨frontIds, -⟩ := sound.other_ids split
  funext id
  by_cases same : id = old.id
  · subst same
    have absent : front.find? (·.id == old.id) = none := by
      refine List.find?_eq_none.mpr ?_
      intro slot member
      simpa using frontIds slot member
    simp [tenant?, slot?, absent, sameId]
  · have different : ¬ old.id = id := fun equal => same equal.symm
    simp [tenant?, slot?, split, sameId, same, different]

/-- The status and the time of the last activity do not bear on the tenants. -/
theorem tenant?_adjust (sound : pool.Sound) {status : SlotStatus} {lastActivity : Millis}
    (replaced : Replaced slot { slot with status, lastActivity } pool.slots slots) :
    tenant? { pool with slots } = pool.tenant? := by
  have same : pool.tenant? slot.id = slot.tenant? := tenant?_of_mem sound replaced.old_mem
  rw [tenant?_replace sound replaced rfl]
  exact Function.update_eq_self_iff.mpr same.symm

end WorkspacePool.Pool
