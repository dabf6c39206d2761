import WorkspacePool.Dialogue
import WorkspacePool.Proofs.Pool.Effect

/-!
Histories of a pool. Each use is indivisible, so whatever callers do side by side comes to a list of
uses in some order. `create_run_intact` says that a new pool is sound after every history, and
`takeTurns_eq_run` that callers who take turns in any order make a history.
-/

namespace WorkspacePool

/-- One use of a pool: who makes it, what the clock reads, and what is asked. -/
structure Use where
  caller : Nat
  now : Millis
  op : PoolOp
deriving DecidableEq, Repr

structure Record where
  use : Use
  reply : use.op.Reply

/-- A caller chooses each use of the pool in the light of the replies to its earlier ones. -/
abbrev Caller := Dialogue PoolOp.Reply Unit

/-- A split of a list that has grown by one is at the new element or before it. -/
theorem split_of_append {α : Type} {log earlier later : List α} {new found : α}
    (split : log ++ [new] = earlier ++ found :: later) :
    (log = earlier ∧ new = found) ∨ ∃ rest, log = earlier ++ found :: rest := by
  rcases List.eq_nil_or_concat later with rfl | ⟨rest, last, rfl⟩
  · obtain ⟨same, singleton⟩ := List.append_inj' split rfl
    exact .inl ⟨same, by simpa using singleton⟩
  · have regrouped : log ++ [new] = (earlier ++ found :: rest) ++ [last] := by
      simpa using split
    exact .inr ⟨rest, (List.append_inj' regrouped rfl).1⟩

/-- Two splits of a list are at one element, or one comes after the other. -/
theorem split_cases {α : Type} {log earlier later front back : List α} {found other : α}
    (split : log = earlier ++ found :: later) (again : log = front ++ other :: back) :
    (earlier = front ∧ found = other ∧ later = back) ∨
      (∃ between, later = between ++ other :: back ∧ front = earlier ++ found :: between) ∨
      ∃ between, back = between ++ found :: later ∧ earlier = front ++ other :: between := by
  have both := split.symm.trans again
  rcases List.append_eq_append_iff.mp both with ⟨between, rfl, rest⟩ | ⟨between, rfl, rest⟩
  · cases between with
    | nil => exact .inl ⟨by simp, (List.cons.inj rest).1, (List.cons.inj rest).2⟩
    | cons head tail =>
        obtain ⟨rfl, after⟩ := List.cons.inj rest
        exact .inr (.inl ⟨tail, after, rfl⟩)
  · cases between with
    | nil => exact .inl ⟨by simp, (List.cons.inj rest).1.symm, (List.cons.inj rest).2.symm⟩
    | cons head tail =>
        obtain ⟨rfl, after⟩ := List.cons.inj rest
        exact .inr (.inr ⟨tail, after, rfl⟩)

namespace Pool

variable {pool after : Pool} {now : Millis} {op : PoolOp} {reply : op.Reply}

def record (pool : Pool) (use : Use) : Record :=
  ⟨use, (pool.perform use.now use.op).1⟩

def next (pool : Pool) (use : Use) : Pool :=
  (pool.perform use.now use.op).2

/-- The pool after a history. -/
def run (pool : Pool) : List Use → Pool
  | [] => pool
  | use :: later => (pool.next use).run later

def records (pool : Pool) : List Use → List Record
  | [] => []
  | use :: later => pool.record use :: (pool.next use).records later

@[simp] theorem run_append (pool : Pool) (earlier later : List Use) :
    pool.run (earlier ++ later) = (pool.run earlier).run later := by
  induction earlier generalizing pool with
  | nil => rfl
  | cons use rest ih => exact ih (pool.next use)

@[simp] theorem records_append (pool : Pool) (earlier later : List Use) :
    pool.records (earlier ++ later) = pool.records earlier ++ (pool.run earlier).records later := by
  induction earlier generalizing pool with
  | nil => rfl
  | cons use rest ih => exact congrArg (pool.record use :: ·) (ih (pool.next use))

@[simp] theorem records_length (pool : Pool) (history : List Use) :
    (pool.records history).length = history.length := by
  induction history generalizing pool with
  | nil => rfl
  | cons use rest ih => exact congrArg (· + 1) (ih (pool.next use))

theorem records_eq_append {history : List Use} {earlier later : List Record}
    (split : pool.records history = earlier ++ later) :
    ∃ before after, history = before ++ after ∧ pool.records before = earlier ∧
      (pool.run before).records after = later := by
  have cut := List.take_append_drop earlier.length history
  have lengths : (pool.records (history.take earlier.length)).length = earlier.length := by
    have enough := congrArg List.length split
    simp only [records_length, List.length_append] at enough
    simp only [records_length, List.length_take]
    omega
  rw [← cut, records_append] at split
  obtain ⟨front, back⟩ := List.append_inj split lengths
  exact ⟨_, _, cut.symm, front, back⟩

/-! ### Soundness -/

theorem Effect.sound (effect : Effect pool now op reply after) (sound : pool.Sound) :
    after.Sound := by
  cases effect with
  | unchanged => exact sound
  | claimed slot projectId sessionId slots free named unheld replaced =>
      exact sound.occupy named unheld replaced
  | freed slot projectId slots held replaced =>
      refine sound.replace replaced rfl (Slot.free_consistent slot.id now) ?_
      intro busy
      simp [Slot.clear, Slot.free] at busy
  | kept => exact sound
  | entered request named absent room => exact sound.append named absent room
  | dequeued request rest queue => exact sound.keep (by simp [queue])
  | emptied => exact sound.keep (by simp)
  | served discarded request rest slot slots queue held unheld first free replaced =>
      have named : request.projectId ≠ "" := sound.named request (by simp [queue])
      have shorter : Sound { pool with waiting := rest } := sound.keep (by simp [queue])
      exact shorter.occupy named unheld replaced
  | withdrawn projectId front request rest queue => exact sound.keep (by simp [queue])
  | adjusted op reply quiet slot status lastActivity slots allowed replaced =>
      have consistent := sound.consistent slot replaced.old_mem
      refine sound.replace replaced rfl ⟨consistent.busy_iff_project, allowed,
        consistent.free_session⟩ ?_
      intro busy other member different otherBusy same
      exact different (congrArg Slot.id
        (sound.same_holder member replaced.old_mem otherBusy busy same))

theorem Effect.size_eq (effect : Effect pool now op reply after) :
    after.slots.length = pool.slots.length ∧ after.capacity = pool.capacity := by
  cases effect <;> first
    | exact ⟨rfl, rfl⟩
    | exact ⟨Replaced.length_eq ‹_›, rfl⟩

theorem Sound.next (sound : pool.Sound) (use : Use) : (pool.next use).Sound :=
  (perform_effect sound use.now use.op).sound sound

theorem Sound.run (sound : pool.Sound) (history : List Use) : (pool.run history).Sound := by
  induction history generalizing pool with
  | nil => exact sound
  | cons use later ih => exact ih (sound.next use)

theorem Sound.run_size_eq (sound : pool.Sound) (history : List Use) :
    (pool.run history).slots.length = pool.slots.length ∧
      (pool.run history).capacity = pool.capacity := by
  induction history generalizing pool with
  | nil => exact ⟨rfl, rfl⟩
  | cons use later ih =>
      obtain ⟨sameLength, sameCapacity⟩ := (perform_effect sound use.now use.op).size_eq
      obtain ⟨laterLength, laterCapacity⟩ := ih (sound.next use)
      exact ⟨laterLength.trans sameLength, laterCapacity.trans sameCapacity⟩

/-! ### Callers side by side -/

/-- Let callers use the pool in turns; who has nothing left to ask is passed over. -/
def takeTurns (pool : Pool) (callers : Nat → Caller) : List (Nat × Millis) → Pool
  | [] => pool
  | (caller, now) :: later =>
      match callers caller with
      | .done () => pool.takeTurns callers later
      | .ask op rest =>
          let (reply, after) := pool.perform now op
          after.takeTurns (Function.update callers caller (rest reply)) later

/-- The uses that callers make in their turns. -/
def usesOf (pool : Pool) (callers : Nat → Caller) : List (Nat × Millis) → List Use
  | [] => []
  | (caller, now) :: later =>
      match callers caller with
      | .done () => pool.usesOf callers later
      | .ask op rest =>
          let (reply, after) := pool.perform now op
          ⟨caller, now, op⟩ :: after.usesOf (Function.update callers caller (rest reply)) later

theorem takeTurns_eq_run (pool : Pool) (callers : Nat → Caller) (turns : List (Nat × Millis)) :
    pool.takeTurns callers turns = pool.run (pool.usesOf callers turns) := by
  induction turns generalizing pool callers with
  | nil => rfl
  | cons turn later ih =>
      obtain ⟨caller, now⟩ := turn
      unfold takeTurns usesOf
      cases callers caller with
      | done => exact ih pool callers
      | ask op rest => exact ih _ _

/-- A pool of `slotCount` slots and a queue of `capacity` places, as every history leaves it. -/
structure Intact (slotCount : UInt32) (capacity : Nat) (pool : Pool) : Prop where
  sound : pool.Sound
  ids : pool.slots.map (·.id.number.toNat) = List.range' 1 slotCount.toNat
  places : pool.waiting.length ≤ capacity

/-- A new pool stays intact through every history, and whatever callers do in whatever turns. -/
theorem create_run_intact (slotCount : UInt32) (capacity : Nat) (start : Millis) :
    (∀ history : List Use,
      Intact slotCount capacity ((create slotCount capacity start).run history)) ∧
    ∀ (callers : Nat → Caller) (turns : List (Nat × Millis)),
      Intact slotCount capacity ((create slotCount capacity start).takeTurns callers turns) := by
  have histories : ∀ history : List Use,
      Intact slotCount capacity ((create slotCount capacity start).run history) := by
    intro history
    have new := create_sound slotCount capacity start
    have sound := new.run history
    obtain ⟨sameLength, sameCapacity⟩ := new.run_size_eq history
    refine ⟨sound, ?_, ?_⟩
    · rw [sound.numbered, sameLength]
      simp [create]
    · exact Nat.le_trans sound.bounded (Nat.le_of_eq sameCapacity)
  refine ⟨histories, ?_⟩
  intro callers turns
  rw [takeTurns_eq_run]
  exact histories _

end Pool

end WorkspacePool
