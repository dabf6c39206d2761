import WorkspacePool.Proofs.Pool.Serving
import WorkspacePool.Proofs.Workflow.Lineage

/-!
Placing a project among other callers. An attempt looks for a free slot and claims it, and others
may do anything with the pool before either step. `Attempts` says how the attempts of one placement
go and which pools they find; what a placement answers is read off it.
-/

namespace WorkspacePool

/-! ### Claims -/

namespace Pool

variable {pool : Pool} {row : Slot} {id : SlotId} {projectId : String}

theorem Sound.exists_slot?_iff (sound : pool.Sound) :
    (∃ row, pool.slot? id = some row) ↔
      id.number.toNat ∈ List.range' 1 pool.slots.length := by
  rw [← sound.numbered, List.mem_map]
  constructor
  · rintro ⟨row, found⟩
    obtain ⟨member, rfl⟩ := (slot?_eq_some_iff sound).mp found
    exact ⟨row, member, rfl⟩
  · rintro ⟨row, member, number⟩
    refine ⟨row, (slot?_eq_some_iff sound).mpr ⟨member, ?_⟩⟩
    exact congrArg SlotId.mk (UInt32.toNat_inj.mp number)

/-- A slot that is there stays, whatever is done with the pool. -/
theorem Sound.slot?_run (sound : pool.Sound) (found : pool.slot? id = some row)
    (history : List Use) : ∃ later, (pool.run history).slot? id = some later := by
  rw [(sound.run history).exists_slot?_iff, (sound.run_size_eq history).1]
  exact sound.exists_slot?_iff.mp ⟨row, found⟩

/-- What claiming a slot comes to that is there: the project holds another slot, the slot is busy,
or it is claimed. -/
theorem claim_cases (sound : pool.Sound) (named : projectId ≠ "")
    (found : pool.slot? id = some row) (sessionId : String) (now : Millis) :
    (∃ holder ∈ pool.slots, holder.holds projectId = true ∧
      pool.claim id projectId sessionId now =
        (.error (.alreadyAssigned projectId holder.id), pool)) ∨
    (row.isBusy = true ∧
      pool.claim id projectId sessionId now = (.error (.notFound (.busy id)), pool)) ∨
    ∃ slots, row.isBusy = false ∧ (∀ other ∈ pool.slots, other.holds projectId = false) ∧
      Replaced row (row.occupy projectId sessionId now) pool.slots slots ∧
        pool.claim id projectId sessionId now = (.ok (), { pool with slots }) := by
  cases elsewhere : pool.holderElsewhere? projectId id with
  | some holder =>
      obtain ⟨holds, -⟩ := Option.filter_eq_some_iff.mp elsewhere
      obtain ⟨member, held⟩ := (holder?_eq_some_iff sound).mp holds
      exact .inl ⟨holder, member, held, by simp [claim, named, elsewhere]⟩
  | none =>
      cases busy : row.isBusy with
      | true => exact .inr (.inl ⟨rfl, by simp [claim, named, elsewhere, found, busy]⟩)
      | false =>
          have result : pool.claim id projectId sessionId now =
              (.ok (), pool.updateSlot id (·.occupy projectId sessionId now)) := by
            simp [claim, named, elsewhere, found, busy]
          have effect : Effect pool now (.claim id projectId sessionId) _ _ := claim_effect sound
          rw [result] at effect ⊢
          generalize pool.updateSlot id (·.occupy projectId sessionId now) = after at effect ⊢
          cases effect with
          | unchanged _ _ quiet => exact quiet.elim
          | adjusted _ _ quiet => exact quiet.elim
          | claimed slot projectId sessionId slots free named unheld replaced =>
              obtain ⟨member, number⟩ := (slot?_eq_some_iff sound).mp found
              obtain rfl := sound.same_row replaced.old_mem member number.symm
              exact .inr (.inr ⟨slots, rfl, holder?_eq_none_iff.mp unheld, replaced, rfl⟩)

end Pool

namespace Workflow

variable {pool after : Pool} {trail : Trail} {projectId sessionId : String} {limit : Nat}
  {strides : List Stride} {result : Except PoolError Placement} {slot : SlotId}

/-! ### Attempts -/

/-- A use of the pool by an operation, before which others went on from an earlier pool. -/
structure Stride.Uses (stride : Stride) (earlier : Pool) (op : PoolOp) : Prop where
  pool : stride.pool = earlier.run stride.others
  step : stride.step = .usePool op

/-- The two steps of an attempt: the lowest free slot is looked up, and claimed. -/
structure Attempt (projectId sessionId : String) (earlier : Pool) (shown : Slot)
    (look claim : Stride) : Prop where
  looks : look.Uses earlier .findFree
  lowest : look.pool.LowestFree shown
  claims : claim.Uses look.pool (.claim shown.id projectId sessionId)

/-- An attempt is lost if the slot that was found is busy when it is to be claimed. -/
def IsLost (projectId sessionId : String) (look claim : Stride) : Prop :=
  ∃ shown row, look.step = .usePool .findFree ∧ look.pool.LowestFree shown ∧
    claim.step = .usePool (.claim shown.id projectId sessionId) ∧
    claim.pool.slot? shown.id = some row ∧ row.isBusy = true

theorem Attempt.sound {earlier : Pool} {shown : Slot} {look claim : Stride}
    (attempt : Attempt projectId sessionId earlier shown look claim) (sound : earlier.Sound) :
    claim.pool.Sound := by
  rw [attempt.claims.pool, attempt.looks.pool]
  exact (sound.run _).run _

/-- How so many attempts go that a project may take, from one pool to another, and what is answered
in the end. -/
inductive Attempts (projectId sessionId : String) :
    Nat → Pool → List Stride → Except PoolError Placement → Pool → Prop where
  | spent {pool : Pool} : Attempts projectId sessionId 0 pool [] (.error .noSlotsAvailable) pool
  | full {attempts : Nat} {pool : Pool} {look : Stride} (looks : look.Uses pool .findFree)
      (busy : ∀ slot ∈ look.pool.slots, slot.isBusy = true) :
      Attempts projectId sessionId (attempts + 1) pool [look] (.error .noSlotsAvailable) look.pool
  | lost {attempts : Nat} {pool after : Pool} {shown row : Slot} {look claim : Stride}
      {strides : List Stride} {result : Except PoolError Placement}
      (attempt : Attempt projectId sessionId pool shown look claim)
      (found : claim.pool.slot? shown.id = some row) (busy : row.isBusy = true)
      (rest : Attempts projectId sessionId attempts claim.pool strides result after) :
      Attempts projectId sessionId (attempts + 1) pool (look :: claim :: strides) result after
  | held {attempts : Nat} {pool : Pool} {shown holder : Slot} {look claim : Stride}
      (attempt : Attempt projectId sessionId pool shown look claim)
      (member : holder ∈ claim.pool.slots) (holds : holder.holds projectId = true) :
      Attempts projectId sessionId (attempts + 1) pool [look, claim] (.ok (.held holder.id))
        claim.pool
  | claimed {attempts : Nat} {pool : Pool} {shown row : Slot} {look claim : Stride}
      {slots : List Slot} (attempt : Attempt projectId sessionId pool shown look claim)
      (found : claim.pool.slot? shown.id = some row) (free : row.isBusy = false)
      (unheld : ∀ other ∈ claim.pool.slots, other.holds projectId = false)
      (replaced : Pool.Replaced row (row.occupy projectId sessionId claim.now)
        claim.pool.slots slots) :
      Attempts projectId sessionId (attempts + 1) pool [look, claim] (.ok (.claimed shown.id))
        { claim.pool with slots }

/-- After a use of the pool an operation goes on from its outcome. -/
theorem Withstands.used {α : Type} {goal : α → Trail → Prop} {op : PoolOp}
    {next : op.Reply → Steps α}
    (withstands : ∀ (others : List Use) (now : Millis) (reply : op.Reply) (after : Trail),
      (trail.pool.run others).perform now op = (reply, after.pool) →
        after.strides = trail.strides ++ [trail.stride others now (.usePool op) reply] →
          Withstands goal (next reply) after) :
    Withstands goal (Steps.usePool op >>= next) trail :=
  .use fun others now => withstands others now _ _ rfl rfl

theorem place_attempts (sound : trail.pool.Sound) (named : projectId ≠ "") (attempts : Nat) :
    Withstands (fun result after => ∃ strides, after.strides = trail.strides ++ strides ∧
      Attempts projectId sessionId attempts trail.pool strides result after.pool)
      (place projectId sessionId attempts) trail := by
  induction attempts generalizing trail with
  | zero => exact .pure ⟨[], by simp, .spent⟩
  | succ attempts ih =>
      unfold place
      refine .used fun others now answer looking outcome before => ?_
      have looked := sound.run others
      have same : looking.pool = trail.pool.run others := (congrArg Prod.snd outcome).symm
      cases first : (trail.pool.run others).firstFree? with
      | none =>
          obtain rfl : .error .noSlotsAvailable = answer := by
            simpa [Pool.perform, Pool.findFree, first] using congrArg Prod.fst outcome
          refine .pure ⟨_, before, ?_⟩
          rw [same]
          exact .full ⟨rfl, rfl⟩ (Pool.firstFree?_eq_none_iff.mp first)
      | some id =>
          obtain ⟨shown, rfl, lowest⟩ := looked.lowestFree_of_firstFree? first
          obtain rfl : .ok shown.id = answer := by
            simpa [Pool.perform, Pool.findFree, first] using congrArg Prod.fst outcome
          refine .used fun rivals later reply after result grown => ?_
          let look := trail.stride others now (.usePool .findFree) (.ok shown.id)
          let claim := looking.stride rivals later
            (.usePool (.claim shown.id projectId sessionId)) reply
          have attempt : Attempt projectId sessionId trail.pool shown look claim :=
            ⟨⟨rfl, rfl⟩, lowest, congrArg (Pool.run · rivals) same, rfl⟩
          have both : after.strides = trail.strides ++ [look, claim] := by
            simp [grown, before, look, claim]
          rw [← same] at looked lowest
          -- The slot is still there at the claim, whoever has it by then.
          obtain ⟨row, there⟩ :=
            looked.slot?_run ((Pool.slot?_eq_some_iff looked).mpr ⟨lowest.member, rfl⟩) rivals
          change (looking.pool.run rivals).claim shown.id projectId sessionId later = _ at result
          rcases Pool.claim_cases (looked.run rivals) named there sessionId later with
            ⟨holder, member, holds, told⟩ | ⟨busy, told⟩ | ⟨slots, free, unheld, replaced, told⟩
          · obtain ⟨rfl, left⟩ := Prod.mk.inj (told.symm.trans result)
            refine .pure ⟨_, both, ?_⟩
            rw [← left]
            exact .held attempt member holds
          · obtain ⟨rfl, left⟩ := Prod.mk.inj (told.symm.trans result)
            refine (ih (left ▸ looked.run rivals)).mono ?_
            rintro result ended ⟨rest, strides, taken⟩
            rw [← left] at taken
            exact ⟨look :: claim :: rest, by simp [strides, both],
              .lost attempt there busy taken⟩
          · obtain ⟨rfl, left⟩ := Prod.mk.inj (told.symm.trans result)
            refine .pure ⟨_, both, ?_⟩
            rw [← left]
            exact .claimed attempt there free unheld replaced

/-! ### What placing answers -/

namespace Attempts

theorem refused (attempts : Attempts projectId sessionId limit pool strides result after)
    {reason : PoolError} (error : result = .error reason) : reason = .noSlotsAvailable := by
  induction attempts with
  | spent => exact (Except.error.inj error).symm
  | full => exact (Except.error.inj error).symm
  | lost attempt found busy rest ih => exact ih error
  | held => contradiction
  | claimed => contradiction

/-- As long as nothing is claimed, the pool goes the way of the others. -/
theorem unchanged (attempts : Attempts projectId sessionId limit pool strides result after)
    (unclaimed : ∀ slot, result ≠ .ok (.claimed slot)) : after = pool.run (othersIn strides) := by
  induction attempts with
  | spent => rfl
  | full looks => simp [looks.pool, othersIn]
  | lost attempt found busy rest ih =>
      rw [ih unclaimed, attempt.claims.pool, attempt.looks.pool]
      simp [othersIn]
  | held attempt => simp [attempt.claims.pool, attempt.looks.pool, othersIn]
  | claimed => exact absurd rfl (unclaimed _)

/-- A slot that is claimed was free, and seats the project from then on. -/
theorem seated (attempts : Attempts projectId sessionId limit pool strides result after)
    (sound : pool.Sound) (named : projectId ≠ "") (claimed : result = .ok (.claimed slot)) :
    ∃ before claim, strides = before ++ [claim] ∧
      claim.step = .usePool (.claim slot projectId sessionId) ∧
      (∃ row, claim.pool.slot? slot = some row ∧ row.isBusy = false) ∧
      after.Seats slot projectId sessionId := by
  induction attempts with
  | spent => contradiction
  | full => contradiction
  | held => cases claimed
  | lost attempt found busy rest ih =>
      obtain ⟨before, claim, split, seated⟩ := ih (attempt.sound sound) claimed
      exact ⟨_ :: _ :: before, claim, congrArg (_ :: _ :: ·) split, seated⟩
  | claimed attempt found free unheld replaced =>
      obtain rfl := Placement.claimed.inj (Except.ok.inj claimed)
      have soundThen := attempt.sound sound
      have soundAfter := soundThen.occupy named (Pool.holder?_eq_none_iff.mpr unheld) replaced
      obtain ⟨-, number⟩ := (Pool.slot?_eq_some_iff soundThen).mp found
      refine ⟨[_], _, rfl, attempt.claims.step, ⟨_, found, free⟩, ?_⟩
      rw [← number]
      exact Pool.seats_of_replaced soundAfter named replaced

theorem found_held (attempts : Attempts projectId sessionId limit pool strides result after)
    (sound : pool.Sound) (held : result = .ok (.held slot)) :
    ∃ before claim shown, strides = before ++ [claim] ∧
      claim.step = .usePool (.claim shown projectId sessionId) ∧
      ∃ row, claim.pool.slot? slot = some row ∧ row.holds projectId = true := by
  induction attempts with
  | spent => contradiction
  | full => contradiction
  | claimed => cases held
  | lost attempt found busy rest ih =>
      obtain ⟨before, claim, shown, split, found⟩ := ih (attempt.sound sound) held
      exact ⟨_ :: _ :: before, claim, shown, congrArg (_ :: _ :: ·) split, found⟩
  | held attempt member holds =>
      obtain rfl := Placement.held.inj (Except.ok.inj held)
      exact ⟨[_], _, _, rfl, attempt.claims.step, _,
        (Pool.slot?_eq_some_iff (attempt.sound sound)).mpr ⟨member, rfl⟩, holds⟩

/-- Without a slot, there was none at some look, or every attempt was lost. -/
theorem full_or_lost (attempts : Attempts projectId sessionId limit pool strides result after)
    (error : result = .error .noSlotsAvailable) :
    (∃ look ∈ strides, look.step = .usePool .findFree ∧
      ∀ row ∈ look.pool.slots, row.isBusy = true) ∨
    ∃ pairs : List (Stride × Stride), pairs.length = limit ∧
      strides = pairs.flatMap (fun pair => [pair.1, pair.2]) ∧
      ∀ pair ∈ pairs, IsLost projectId sessionId pair.1 pair.2 := by
  induction attempts with
  | spent => exact .inr ⟨[], rfl, rfl, by simp⟩
  | full looks busy => exact .inl ⟨_, List.mem_singleton_self _, looks.step, busy⟩
  | held => contradiction
  | claimed => contradiction
  | @lost _ _ _ shown row look claim _ _ attempt found busy rest ih =>
      rcases ih error with ⟨other, member, full⟩ | ⟨pairs, length, split, lost⟩
      · exact .inl ⟨other, by simp [member], full⟩
      · refine .inr ⟨(look, claim) :: pairs, by simp [length], by simp [split], ?_⟩
        exact List.forall_mem_cons.mpr ⟨⟨shown, row, attempt.looks.step, attempt.lowest,
          attempt.claims.step, found, busy⟩, lost⟩

end Attempts

/-- Left alone, a project that holds no slot gets the lowest-numbered free one. -/
theorem place_alone {scene : Scene} {free : Slot} (sound : scene.pool.Sound)
    (named : projectId ≠ "") (lowest : scene.pool.LowestFree free)
    (unheld : ∀ row ∈ scene.pool.slots, row.holds projectId = false) (attempts : Nat) :
    Ensures (fun result _ => result = .ok (.claimed free.id))
      (place projectId sessionId (attempts + 1)) scene := by
  have first := lowest.firstFree? sound
  have unhosted := sound.not_hosts (Pool.holder?_eq_none_iff.mpr unheld)
  unfold place
  refine .use fun now => ?_
  simp only [Pool.perform, Pool.findFree, first]
  refine .use fun later => ?_
  simp only [Pool.perform, Scene.afterUse, Pool.claim_shown sound first named unhosted]
  exact .pure rfl

/-- Placing a project while others do anything with the pool before each step. It fails only for
want of a slot. A slot that is claimed was free just before, and seats the project, and it alone,
right after. A slot that is answered as held was held at the claim that was refused for it. If there
is no slot, all were busy at some look, or in every attempt the slot that was found was busy when it
was to be claimed. Unless a slot was claimed, the pool is what the others alone have made of it.
Left alone, a project that holds no slot gets the lowest-numbered free one. -/
theorem place_among_others (sound : pool.Sound) (named : projectId ≠ "") (sessionId : String) :
    (∀ company : Company,
      let ended := (Trail.start pool).run company (place projectId sessionId placementAttempts)
      (∀ reason, ended.1 = .error reason → reason = .noSlotsAvailable) ∧
      (∀ slot, ended.1 = .ok (.claimed slot) → ∃ before claim,
        ended.2.strides = before ++ [claim] ∧
        claim.step = .usePool (.claim slot projectId sessionId) ∧
        (∃ row, claim.pool.slot? slot = some row ∧ row.isBusy = false) ∧
        ended.2.pool.Seats slot projectId sessionId) ∧
      (∀ slot, ended.1 = .ok (.held slot) → ∃ before claim shown,
        ended.2.strides = before ++ [claim] ∧
        claim.step = .usePool (.claim shown projectId sessionId) ∧
        ∃ row, claim.pool.slot? slot = some row ∧ row.holds projectId = true) ∧
      (ended.1 = .error .noSlotsAvailable →
        (∃ look ∈ ended.2.strides, look.step = .usePool .findFree ∧
          ∀ row ∈ look.pool.slots, row.isBusy = true) ∨
        ∃ pairs : List (Stride × Stride), pairs.length = placementAttempts ∧
          ended.2.strides = pairs.flatMap (fun pair => [pair.1, pair.2]) ∧
          ∀ pair ∈ pairs, IsLost projectId sessionId pair.1 pair.2) ∧
      ((∀ slot, ended.1 ≠ .ok (.claimed slot)) →
        ended.2.pool = pool.run (othersIn ended.2.strides))) ∧
    ∀ (around : Surroundings) (free : Slot), pool.LowestFree free →
      (∀ row ∈ pool.slots, row.holds projectId = false) →
        ((Trail.start pool).run (.nobody around)
          (place projectId sessionId placementAttempts)).1 = .ok (.claimed free.id) := by
  refine ⟨fun company => ?_, fun around free lowest unheld => ?_⟩
  · intro ended
    have soundStart : (Trail.start pool).pool.Sound := sound
    obtain ⟨strides, all, attempts⟩ :=
      (place_attempts soundStart named placementAttempts).run company
    obtain rfl : ended.2.strides = strides := all
    exact ⟨fun reason => attempts.refused, fun slot => attempts.seated sound named,
      fun slot => attempts.found_held sound, attempts.full_or_lost, attempts.unchanged⟩
  · have soundStart : (Trail.start pool).scene.pool.Sound := sound
    have alone := run_nobody around (Trail.start pool)
      (place projectId sessionId placementAttempts)
    exact (congrArg Prod.fst alone).symm.trans
      ((place_alone soundStart named lowest unheld 2).run around)

/-- A rival takes the slot that was found, and the next attempt gets the other one. -/
theorem rival_takes_first_slot :
    let pool := Pool.create 2 0 0
    let company := Company.interfering 1 [⟨1, 0, .claim ⟨1⟩ "rival" "session"⟩]
    let ended := (Trail.start pool).run company (place "project" "session" placementAttempts)
    pool.Sound ∧ "project" ≠ "" ∧ ended.1 = .ok (.claimed ⟨2⟩) ∧
      ended.2.pool.Seats ⟨2⟩ "project" "session" := by
  intro pool company ended
  have sound : pool.Sound := Pool.create_sound 2 0 0
  have named : "project" ≠ "" := by decide
  have claimed : ended.1 = .ok (.claimed ⟨2⟩) := by decide +kernel
  obtain ⟨-, -, -, -, -, seated⟩ :=
    ((place_among_others sound named "session").1 company).2.1 ⟨2⟩ claimed
  exact ⟨sound, named, claimed, seated⟩

end Workflow

end WorkspacePool
