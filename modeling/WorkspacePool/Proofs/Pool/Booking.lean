import WorkspacePool.Proofs.Pool.History

/-!
Claims and frees of slots, as the replies of a pool tell of them. Along every history they take
turns at each slot and at each project, and every free ends the claim of the same pair, so that no
slot is booked twice (`bookings_never_overlap`). The proof follows the table of tenants: a booking
changes it at one slot, and nothing else changes it.
-/

namespace WorkspacePool

/-- A slot is claimed for a project, or freed from it. -/
inductive Booking where
  | claim (slot : SlotId) (projectId : String)
  | free (slot : SlotId) (projectId : String)
deriving DecidableEq, Repr

namespace Booking

def slot : Booking → SlotId
  | claim slot _ => slot
  | free slot _ => slot

def projectId : Booking → String
  | claim _ projectId => projectId
  | free _ projectId => projectId

def isClaim : Booking → Bool
  | claim _ _ => true
  | free _ _ => false

end Booking

/-- What a reply says to be claimed or freed. -/
def PoolOp.booking? : (op : PoolOp) → op.Reply → Option Booking
  | .claim slot projectId _, .ok () => some (.claim slot projectId)
  | .claimNext, some (slot, request) => some (.claim slot request.projectId)
  | .free projectId, .ok slot => some (.free slot projectId)
  | _, _ => none

theorem PoolOp.booking?_of_isQuiet {op : PoolOp} {reply : op.Reply} (quiet : op.IsQuiet reply) :
    op.booking? reply = none := by
  cases op <;> first | rfl | (cases reply <;> first | rfl | exact quiet.elim)

namespace Record

def booking? (record : Record) : Option Booking :=
  record.use.op.booking? record.reply

/-- The caller looked for a free slot and was shown this one. -/
def Shows (record : Record) (slot : SlotId) : Prop :=
  ∃ caller now, record = ⟨⟨caller, now, .findFree⟩, .ok slot⟩

/-- The use claims the slot. -/
def claims (record : Record) (slot : SlotId) : Bool :=
  record.booking?.any fun booking => booking.isClaim && booking.slot == slot

end Record

/-! ### Taking turns -/

variable {log : List Booking} {booking : Booking} {slot : SlotId} {projectId : String}

/-- Claims and frees take turns, and a claim comes first. -/
def TakesTurns (log : List Booking) : Prop :=
  ∀ (index : Nat) (booking : Booking), log[index]? = some booking →
    (booking.isClaim = true ↔ index % 2 = 0)

/-- The log takes turns and ends with a claim exactly when the thing is held. -/
def TurnsTo (log : List Booking) (held : Prop) : Prop :=
  TakesTurns log ∧ (log.length % 2 = 1 ↔ held)

theorem TakesTurns.append (turns : TakesTurns log)
    (fits : booking.isClaim = true ↔ log.length % 2 = 0) : TakesTurns (log ++ [booking]) := by
  intro index found member
  rcases Nat.lt_trichotomy index log.length with earlier | last | beyond
  · rw [List.getElem?_append_left earlier] at member
    exact turns index found member
  · subst last
    simp only [List.getElem?_concat_length, Option.some.injEq] at member
    rw [← member]
    exact fits
  · have outside : (log ++ [booking])[index]? = none := by
      refine List.getElem?_eq_none ?_
      simp only [List.length_append, List.length_singleton]
      omega
    rw [outside] at member
    contradiction

theorem TurnsTo.claim {held : Prop} (turns : TurnsTo log held) (unheld : ¬ held)
    (isClaim : booking.isClaim = true) {nowHeld : Prop} (taken : nowHeld) :
    TurnsTo (log ++ [booking]) nowHeld := by
  have even : log.length % 2 = 0 := by
    have notOdd := mt turns.2.mp unheld
    omega
  refine ⟨turns.1.append (by simp [isClaim, even]), ?_⟩
  simp only [List.length_append, List.length_singleton, taken, iff_true]
  omega

theorem TurnsTo.free {held : Prop} (turns : TurnsTo log held) (was : held)
    (isFree : booking.isClaim = false) {nowHeld : Prop} (given : ¬ nowHeld) :
    TurnsTo (log ++ [booking]) nowHeld := by
  have odd : log.length % 2 = 1 := turns.2.mpr was
  refine ⟨turns.1.append (by simp [isFree, odd]), ?_⟩
  simp only [List.length_append, List.length_singleton, given, iff_false]
  omega

theorem TurnsTo.congr {held nowHeld : Prop} (turns : TurnsTo log held) (same : nowHeld ↔ held) :
    TurnsTo log nowHeld :=
  ⟨turns.1, turns.2.trans same.symm⟩

/-- A log that takes turns has at most one claim in a row. -/
theorem TakesTurns.claims_length {front middle back : List Booking}
    (turns : TakesTurns (front ++ middle ++ back))
    (claims : ∀ booking ∈ middle, booking.isClaim = true) : middle.length ≤ 1 := by
  match middle with
  | [] => simp
  | [_] => simp
  | first :: second :: rest =>
      have firstTurn := turns front.length first (by simp)
      have secondTurn := turns (front.length + 1) second (by simp)
      have firstEven := firstTurn.mp (claims first (by simp))
      have secondEven := secondTurn.mp (claims second (by simp))
      omega

/-! ### Standing claims -/

/-- Of the slot and of the project, the last that was booked is the claim of the one for the
other. -/
def Standing (log : List Booking) (slot : SlotId) (projectId : String) : Prop :=
  ∃ before between, log = before ++ .claim slot projectId :: between ∧
    ∀ booking ∈ between, booking.slot ≠ slot ∧ booking.projectId ≠ projectId

theorem Standing.append (standing : Standing log slot projectId) (otherSlot : booking.slot ≠ slot)
    (otherProject : booking.projectId ≠ projectId) :
    Standing (log ++ [booking]) slot projectId := by
  obtain ⟨before, between, rfl, apart⟩ := standing
  refine ⟨before, between ++ [booking], by simp, ?_⟩
  intro other member
  rcases List.mem_append.mp member with earlier | last
  · exact apart other earlier
  · rw [List.mem_singleton.mp last]
    exact ⟨otherSlot, otherProject⟩

theorem standing_claim : Standing (log ++ [.claim slot projectId]) slot projectId :=
  ⟨log, [], by simp, by simp⟩

theorem Standing.held (standing : Standing log slot projectId) {held : Prop}
    (turns : TurnsTo (log.filter (·.slot == slot)) held) : held := by
  obtain ⟨before, between, rfl, apart⟩ := standing
  have silent : between.filter (·.slot == slot) = [] := by
    refine List.filter_eq_nil_iff.mpr ?_
    intro booking member
    simpa using (apart booking member).1
  rw [List.filter_append, List.filter_cons_of_pos (by simp [Booking.slot]), silent] at turns
  have last := turns.1 (before.filter (·.slot == slot)).length (.claim slot projectId) (by simp)
  have even := last.mp rfl
  refine turns.2.mp ?_
  simp only [List.length_append, List.length_singleton]
  omega

namespace Pool

variable {pool after : Pool} {now : Millis} {op : PoolOp} {reply : op.Reply}

/-- The claims and frees of a history, in order. -/
def bookings (pool : Pool) (history : List Use) : List Booking :=
  (pool.records history).filterMap Record.booking?

/-! ### Bookings and the table of tenants -/

/-- How a booking changes a table of tenants. -/
def Transfers (before after : SlotId → Option (String × String)) : Option Booking → Prop
  | none => after = before
  | some (.claim slot projectId) =>
      before slot = none ∧ (∀ other session, before other ≠ some (projectId, session)) ∧
        ∃ session, after = Function.update before slot (some (projectId, session))
  | some (.free slot projectId) =>
      (∃ session, before slot = some (projectId, session)) ∧
        (∀ other session, other ≠ slot → before other ≠ some (projectId, session)) ∧
        after = Function.update before slot none

theorem transfers_occupy (sound : pool.Sound) {row : Slot} {slots : List Slot} (sessionId : String)
    (free : row.isBusy = false) (unheld : pool.holder? projectId = none)
    (replaced : Replaced row (row.occupy projectId sessionId now) pool.slots slots) :
    Transfers pool.tenant? (tenant? { pool with slots }) (some (.claim row.id projectId)) := by
  refine ⟨tenant?_of_free sound replaced.old_mem free,
    fun other session => tenant?_ne_of_unheld sound unheld, sessionId, ?_⟩
  rw [tenant?_replace sound replaced rfl, Slot.tenant?_occupy]

theorem Effect.transfers (effect : Effect pool now op reply after) (sound : pool.Sound) :
    Transfers pool.tenant? after.tenant? (op.booking? reply) := by
  cases effect with
  | unchanged op reply quiet =>
      rw [PoolOp.booking?_of_isQuiet quiet]
      rfl
  | claimed row projectId sessionId slots free named unheld replaced =>
      exact transfers_occupy sound sessionId free unheld replaced
  | freed row projectId slots held replaced =>
      have served := tenant?_of_holds sound replaced.old_mem held
      refine ⟨⟨row.sessionId, served⟩, ?_, ?_⟩
      · intro other session different otherServed
        exact different (sound.same_tenant otherServed served)
      · rw [tenant?_replace sound replaced rfl, Slot.tenant?_clear]
  | kept => rfl
  | entered => rfl
  | dequeued => rfl
  | emptied => rfl
  | served discarded request rest row slots queue held unheld first free replaced =>
      exact transfers_occupy sound request.sessionId free unheld replaced
  | withdrawn => rfl
  | adjusted op reply quiet row status lastActivity slots allowed replaced =>
      rw [PoolOp.booking?_of_isQuiet quiet]
      exact tenant?_adjust sound replaced

/-! ### What bookings keep to -/

/-- A log of bookings that has led to a table of tenants. -/
structure Booked (tenants : SlotId → Option (String × String)) (log : List Booking) : Prop where
  slots : ∀ slot, TurnsTo (log.filter (·.slot == slot))
    (∃ projectId session, tenants slot = some (projectId, session))
  projects : ∀ projectId, TurnsTo (log.filter (·.projectId == projectId))
    (∃ slot session, tenants slot = some (projectId, session))
  standing : ∀ slot projectId session, tenants slot = some (projectId, session) →
    Standing log slot projectId
  matched : ∀ earlier later slot projectId, log = earlier ++ .free slot projectId :: later →
    Standing earlier slot projectId

variable {tenants : SlotId → Option (String × String)} {session : String}

/-- A booking changes the table at its own slot and for its own project; the turns taken there and
what stands afterwards are told by the kind of the booking. -/
theorem Booked.append {after : SlotId → Option (String × String)} (booked : Booked tenants log)
    (booking : Booking)
    (elsewhere : ∀ other, other ≠ booking.slot → after other = tenants other)
    (alone : ∀ other session, other ≠ booking.slot →
      tenants other ≠ some (booking.projectId, session))
    (own : ∀ projectId session, projectId ≠ booking.projectId →
      tenants booking.slot ≠ some (projectId, session) ∧
        after booking.slot ≠ some (projectId, session))
    (atSlot : TurnsTo (log.filter (·.slot == booking.slot) ++ [booking])
      (∃ projectId session, after booking.slot = some (projectId, session)))
    (atProject : TurnsTo (log.filter (·.projectId == booking.projectId) ++ [booking])
      (∃ slot session, after slot = some (booking.projectId, session)))
    (stands : ∀ projectId session, after booking.slot = some (projectId, session) →
      Standing (log ++ [booking]) booking.slot projectId)
    (ends : booking.isClaim = false → Standing log booking.slot booking.projectId) :
    Booked after (log ++ [booking]) := by
  refine ⟨?_, ?_, ?_, ?_⟩
  · intro slot
    rw [List.filter_append]
    by_cases here : slot = booking.slot
    · subst here
      simpa using atSlot
    · rw [elsewhere slot here]
      simpa [Ne.symm here] using booked.slots slot
  · intro projectId
    rw [List.filter_append]
    by_cases same : projectId = booking.projectId
    · subst same
      simpa using atProject
    · have kept : (∃ slot session, after slot = some (projectId, session)) ↔
          ∃ slot session, tenants slot = some (projectId, session) := by
        refine exists_congr fun slot => exists_congr fun session => ?_
        by_cases here : slot = booking.slot
        · subst here
          simp [own projectId session same]
        · rw [elsewhere slot here]
      simpa [Ne.symm same] using (booked.projects projectId).congr kept
  · intro slot projectId session served
    by_cases here : slot = booking.slot
    · subst here
      exact stands projectId session served
    · rw [elsewhere slot here] at served
      refine (booked.standing slot projectId session served).append (Ne.symm here) ?_
      intro same
      exact alone slot session here (same ▸ served)
  · intro earlier later slot projectId split
    rcases split_of_append split with ⟨rfl, rfl⟩ | ⟨rest, before⟩
    · exact ends rfl
    · exact booked.matched earlier rest slot projectId before

theorem Booked.claim (booked : Booked tenants log) (free : tenants slot = none)
    (unheld : ∀ other session, tenants other ≠ some (projectId, session)) :
    Booked (Function.update tenants slot (some (projectId, session)))
      (log ++ [.claim slot projectId]) := by
  have vacant : ¬ ∃ projectId session, tenants slot = some (projectId, session) := by
    simp [free]
  have absent : ¬ ∃ slot session, tenants slot = some (projectId, session) := by
    rintro ⟨slot, session, served⟩
    exact unheld slot session served
  refine booked.append (.claim slot projectId)
    (fun other different => Function.update_of_ne different _ _)
    (fun other session _ => unheld other session) ?_
    ((booked.slots slot).claim vacant rfl ⟨projectId, session, Function.update_self _ _ _⟩)
    ((booked.projects projectId).claim absent rfl ⟨slot, session, Function.update_self _ _ _⟩)
    ?_ (fun isFree => absurd isFree (by simp [Booking.isClaim]))
  · intro other session' different
    simp only [Booking.slot, Booking.projectId, free, Function.update_self] at different ⊢
    simp [Ne.symm different]
  · intro other session' served
    simp only [Booking.slot, Function.update_self, Option.some.injEq, Prod.mk.injEq] at served
    rw [← served.1]
    exact standing_claim

theorem Booked.free (booked : Booked tenants log)
    (served : tenants slot = some (projectId, session))
    (alone : ∀ other session, other ≠ slot → tenants other ≠ some (projectId, session)) :
    Booked (Function.update tenants slot none) (log ++ [.free slot projectId]) := by
  have gone : ¬ ∃ place session', Function.update tenants slot none place =
      some (projectId, session') := by
    rintro ⟨place, session', still⟩
    by_cases here : place = slot
    · subst here
      simp at still
    · rw [Function.update_of_ne here] at still
      exact alone place session' here still
  refine booked.append (.free slot projectId)
    (fun other different => Function.update_of_ne different _ _)
    (fun other session different => alone other session different) ?_
    ((booked.slots slot).free ⟨projectId, session, served⟩ rfl (by simp [Booking.slot]))
    ((booked.projects projectId).free ⟨slot, session, served⟩ rfl gone)
    ?_ (fun _ => booked.standing slot projectId session served)
  · intro other session' different
    simp only [Booking.slot, Booking.projectId, served, Function.update_self] at different ⊢
    simp [Ne.symm different]
  · intro other session' still
    simp [Booking.slot] at still

theorem Booked.transfer {before after : SlotId → Option (String × String)}
    {booking : Option Booking} (booked : Booked before log)
    (transfers : Transfers before after booking) : Booked after (log ++ booking.toList) := by
  match booking, transfers with
  | none, same =>
      rw [Option.toList_none, List.append_nil, show after = before from same]
      exact booked
  | some (.claim slot projectId), ⟨free, unheld, session, changed⟩ =>
      rw [changed]
      exact booked.claim free unheld
  | some (.free slot projectId), ⟨⟨session, served⟩, alone, changed⟩ =>
      rw [changed]
      exact booked.free served alone

theorem Booked.history (booked : Booked pool.tenant? log) (sound : pool.Sound)
    (history : List Use) :
    Booked (pool.run history).tenant? (log ++ pool.bookings history) := by
  induction history generalizing pool log with
  | nil => simpa [bookings, records, run] using booked
  | cons use later ih =>
      have effect := perform_effect sound use.now use.op
      have step := ih (booked.transfer (effect.transfers sound)) (effect.sound sound)
      have grown : pool.bookings (use :: later) =
          (pool.record use).booking?.toList ++ (pool.next use).bookings later := by
        cases booking : (pool.record use).booking? <;> simp [bookings, records, booking]
      rw [grown, ← List.append_assoc]
      exact step

theorem create_booked (slotCount : UInt32) (capacity : Nat) (now : Millis) :
    Booked (create slotCount capacity now).tenant? [] := by
  have empty := create_tenant? slotCount capacity now
  refine ⟨?_, ?_, ?_, ?_⟩
  · intro slot
    exact ⟨by simp [TakesTurns], by simp [empty]⟩
  · intro projectId
    exact ⟨by simp [TakesTurns], by simp [empty]⟩
  · intro slot projectId session served
    rw [empty slot] at served
    contradiction
  · intro earlier later slot projectId split
    simp at split

theorem findFree_of_shown {history : List Use} {caller : Nat} {later : List Record}
    (shown : pool.records history = ⟨⟨caller, now, .findFree⟩, .ok slot⟩ :: later) :
    pool.firstFree? = some slot := by
  cases history with
  | nil => contradiction
  | cons use rest =>
      have head : pool.record use = ⟨⟨caller, now, .findFree⟩, .ok slot⟩ :=
        (List.cons.inj shown).1
      obtain rfl : use = ⟨caller, now, .findFree⟩ := congrArg Record.use head
      have reply : pool.findFree = .ok slot := by simpa [record, perform] using head
      unfold findFree at reply
      split at reply
      · next found first =>
        rw [first, Except.ok.inj reply]
      · contradiction

theorem filter_claims_length (records : List Record) (slot : SlotId) :
    (records.filter (·.claims slot)).length ≤
      ((records.filterMap Record.booking?).filter (·.slot == slot)).length := by
  induction records with
  | nil => simp
  | cons record rest ih =>
      cases booking : record.booking? with
      | none => simpa [Record.claims, booking] using ih
      | some found =>
          by_cases here : found.slot = slot
          · have longer : (rest.filter (·.claims slot)).length ≤
                ((rest.filterMap Record.booking?).filter (·.slot == slot)).length + 1 := by omega
            cases claim : found.isClaim
            · simpa [Record.claims, booking, here, claim] using longer
            · simpa [Record.claims, booking, here, claim] using ih
          · simpa [Record.claims, booking, here] using ih

/-- No slot is booked twice. Along every history, by any callers, claims and frees take turns at
each slot and at each project, every free ends a standing claim of the same pair, whoever is shown
a slot is shown one that nobody holds, and until it is freed at most one use claims it. -/
theorem bookings_never_overlap (slotCount : UInt32) (capacity : Nat) (start : Millis)
    (history : List Use) :
    let pool := create slotCount capacity start
    let log := pool.bookings history
    (∀ slot, TakesTurns (log.filter (·.slot == slot))) ∧
    (∀ projectId, TakesTurns (log.filter (·.projectId == projectId))) ∧
    (∀ earlier later slot projectId, log = earlier ++ .free slot projectId :: later →
      Standing earlier slot projectId) ∧
    (∀ earlier look later slot, pool.records history = earlier ++ look :: later →
      look.Shows slot →
      ∀ projectId, ¬ Standing (earlier.filterMap Record.booking?) slot projectId) ∧
    (∀ earlier during later slot, pool.records history = earlier ++ during ++ later →
      (∀ record ∈ during, ∀ projectId, record.booking? ≠ some (.free slot projectId)) →
      (during.filter (·.claims slot)).length ≤ 1) := by
  intro pool log
  have sound : pool.Sound := create_sound slotCount capacity start
  have new : Booked pool.tenant? [] := create_booked slotCount capacity start
  have booked : Booked (pool.run history).tenant? log := new.history sound history
  refine ⟨fun slot => (booked.slots slot).1, fun projectId => (booked.projects projectId).1,
    booked.matched, ?_, ?_⟩
  · rintro earlier look later slot split ⟨caller, now, rfl⟩ projectId standing
    obtain ⟨before, after, -, rfl, rest⟩ := records_eq_append split
    have shows := findFree_of_shown rest
    have turns := (new.history sound before).slots slot
    obtain ⟨project, session, served⟩ := standing.held turns
    -- The row that was shown is free, but has a tenant.
    obtain ⟨row, member, rfl, free⟩ := firstFree?_eq_some shows
    rw [tenant?_of_free (sound.run before) member free] at served
    contradiction
  · intro earlier during later slot split unfreed
    refine Nat.le_trans (filter_claims_length during slot) ?_
    have turns := (booked.slots slot).1
    simp only [log, bookings, split, List.filterMap_append, List.filter_append] at turns
    refine turns.claims_length ?_
    intro booking member
    obtain ⟨inDuring, here⟩ := List.mem_filter.mp member
    obtain ⟨record, recorded, found⟩ := List.mem_filterMap.mp inDuring
    cases booking with
    | claim => rfl
    | free place projectId =>
        have same : place = slot := by simpa [Booking.slot] using here
        exact absurd (same ▸ found) (unfreed record recorded projectId)

end Pool

end WorkspacePool
