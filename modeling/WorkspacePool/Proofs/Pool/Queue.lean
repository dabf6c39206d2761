import WorkspacePool.Proofs.Pool.History

/-!
The queue of a pool against its history. Requests are numbered as they enter, and a register keeps
which of them have left and how. `queue_conserved` says that the queue is always what has entered
less what has left, in order and unaltered, and that the head is never left behind.
-/

namespace WorkspacePool

namespace PoolOp

/-- Whether an operation takes requests from the head of the queue. -/
def takesHead : PoolOp → Bool
  | .dequeue | .claimNext => true
  | _ => false

/-- The requests that a reply hands out of the queue. -/
def handed : (op : PoolOp) → op.Reply → List Request
  | .dequeue, reply => reply.toList
  | .claimNext, reply => (reply.map Prod.snd).toList
  | .withdraw _, reply => reply.toList
  | _, _ => []

end PoolOp

/-- An entry leaves the queue, from its head or from the place where it stands. -/
structure Departure where
  entry : Nat
  fromHead : Bool
deriving DecidableEq, Repr

/-- The requests that have entered a queue, numbered from zero, and the departures. -/
structure Register where
  entered : List Request
  departures : List Departure
deriving DecidableEq, Repr

namespace Register

variable {register : Register} {front middle back : List (Request × Nat)} {request : Request}
  {number : Nat} {fromHead : Bool}

def blank : Register := ⟨[], []⟩

def hasLeft (register : Register) (entry : Nat) : Bool :=
  register.departures.any (·.entry == entry)

/-- What has entered less what has left, each request with its number. -/
def remaining (register : Register) : List (Request × Nat) :=
  register.entered.zipIdx.filter fun entry => !register.hasLeft entry.2

def enter (register : Register) (requests : List Request) : Register :=
  { register with entered := register.entered ++ requests }

def leave (register : Register) (fromHead : Bool) : List (Request × Nat) → Register
  | [] => register
  | (_, entry) :: later =>
      leave { register with departures := register.departures ++ [⟨entry, fromHead⟩] } fromHead
        later

/-- Every entry leaves once at most, and from the head only when all before it have left. -/
structure Orderly (register : Register) : Prop where
  known : ∀ departure ∈ register.departures, departure.entry < register.entered.length
  once : (register.departures.map (·.entry)).Nodup
  inTurn : ∀ before departure after, register.departures = before ++ departure :: after →
    departure.fromHead = true → ∀ entry < departure.entry, entry ∈ before.map (·.entry)

theorem hasLeft_iff : register.hasLeft number = true ↔
    number ∈ register.departures.map (·.entry) := by
  simp [hasLeft]

theorem mem_remaining_iff : (request, number) ∈ register.remaining ↔
    register.entered[number]? = some request ∧ register.hasLeft number = false := by
  simp [remaining, List.mem_zipIdx_iff_getElem?]

theorem remaining_ascending (register : Register) :
    (register.remaining.map Prod.snd).Pairwise (· < ·) := by
  have ascending : (register.entered.zipIdx.map Prod.snd).Pairwise (· < ·) := by
    rw [List.zipIdx_map_snd]
    exact List.pairwise_lt_range'
  exact ascending.sublist (List.filter_sublist.map _)

theorem Orderly.enter (orderly : register.Orderly) (requests : List Request) :
    (register.enter requests).Orderly := by
  refine ⟨?_, orderly.once, orderly.inTurn⟩
  intro departure member
  have bound := orderly.known departure member
  simp only [Register.enter, List.length_append]
  omega

theorem remaining_enter (orderly : register.Orderly) (request : Request) :
    (register.enter [request]).remaining =
      register.remaining ++ [(request, register.entered.length)] := by
  have new : register.hasLeft register.entered.length = false := by
    cases left : register.hasLeft register.entered.length with
    | false => rfl
    | true =>
        obtain ⟨departure, member, same⟩ := List.mem_map.mp (hasLeft_iff.mp left)
        have bound := orderly.known departure member
        omega
  change ((register.entered ++ [request]).zipIdx.filter fun entry => !register.hasLeft entry.2) = _
  rw [List.zipIdx_append, List.filter_append]
  simp [remaining, new]

theorem remaining_depart (fromHead : Bool)
    (entries : register.remaining = front ++ (request, number) :: back) :
    remaining { register with departures := register.departures ++ [⟨number, fromHead⟩] } =
      front ++ back := by
  have ascending := remaining_ascending register
  rw [entries, List.map_append, List.map_cons, List.pairwise_append,
    List.pairwise_cons] at ascending
  obtain ⟨-, ⟨behind, -⟩, across⟩ := ascending
  have fewer :
      remaining { register with departures := register.departures ++ [⟨number, fromHead⟩] } =
      register.remaining.filter fun entry => entry.2 != number := by
    simp only [remaining, hasLeft, List.filter_filter, List.any_append, List.any_cons, List.any_nil]
    refine List.filter_congr ?_
    intro entry _
    by_cases same : entry.2 = number
    · simp [same]
    · have different : ¬ number = entry.2 := fun equal => same equal.symm
      simp [bne, beq_eq_false_iff_ne.mpr same, beq_eq_false_iff_ne.mpr different]
  rw [fewer, entries, List.filter_append, List.filter_cons_of_neg (by simp)]
  congr 1
  · refine List.filter_eq_self.mpr ?_
    intro entry member
    have less := across entry.2 (List.mem_map_of_mem member) number (by simp)
    simp only [bne_iff_ne, ne_eq]
    omega
  · refine List.filter_eq_self.mpr ?_
    intro entry member
    have more := behind entry.2 (List.mem_map_of_mem member)
    simp only [bne_iff_ne, ne_eq]
    omega

theorem Orderly.depart (orderly : register.Orderly)
    (entries : register.remaining = front ++ (request, number) :: back)
    (head : fromHead = true → front = []) :
    Orderly { register with departures := register.departures ++ [⟨number, fromHead⟩] } := by
  have present : (request, number) ∈ register.remaining := by simp [entries]
  obtain ⟨stored, stays⟩ := mem_remaining_iff.mp present
  obtain ⟨bound, -⟩ := List.getElem?_eq_some_iff.mp stored
  refine ⟨?_, ?_, ?_⟩
  · intro departure member
    rcases List.mem_append.mp member with earlier | last
    · exact orderly.known departure earlier
    · rw [List.mem_singleton.mp last]
      exact bound
  · rw [List.map_append]
    refine List.nodup_append.mpr ⟨orderly.once, by simp, ?_⟩
    intro entry member other last same
    simp only [List.map_cons, List.map_nil, List.mem_singleton] at last
    rw [same, last] at member
    rw [hasLeft_iff.mpr member] at stays
    contradiction
  · intro before departure after split isHead entry less
    rcases split_of_append split with ⟨rfl, rfl⟩ | ⟨rest, earlier⟩
    · -- An entry before the head that has not left would remain before it.
      change entry < number at less
      by_contra waits
      have left : register.hasLeft entry = false := by
        simpa using mt hasLeft_iff.mp waits
      have entered : entry < register.entered.length := by omega
      have remains : (register.entered[entry], entry) ∈ register.remaining :=
        mem_remaining_iff.mpr ⟨List.getElem?_eq_getElem entered, left⟩
      have ascending := remaining_ascending register
      rw [entries, head isHead, List.nil_append] at ascending remains
      obtain ⟨behind, -⟩ := List.pairwise_cons.mp ascending
      rcases List.mem_cons.mp remains with same | later
      · have equal : entry = number := congrArg Prod.snd same
        omega
      · have more : number < entry := behind entry (List.mem_map_of_mem later)
        omega
    · exact orderly.inTurn before departure rest earlier isHead entry less

theorem Orderly.leave (orderly : register.Orderly)
    (entries : register.remaining = front ++ middle ++ back) (head : fromHead = true → front = []) :
    (register.leave fromHead middle).Orderly ∧
      (register.leave fromHead middle).remaining = front ++ back ∧
      (register.leave fromHead middle).entered = register.entered := by
  induction middle generalizing register with
  | nil => exact ⟨orderly, by simpa [Register.leave] using entries, rfl⟩
  | cons first rest ih =>
      obtain ⟨request, number⟩ := first
      have split : register.remaining = front ++ (request, number) :: (rest ++ back) := by
        simpa using entries
      have others := remaining_depart fromHead split
      exact ih (orderly.depart split head) (by simpa using others)

/-! ### What a use of the pool does to its queue -/

/-- The request of an enqueueing that made the queue longer. -/
def entering (before : Pool) (op : PoolOp) (after : Pool) : List Request :=
  match op with
  | .enqueue request => if before.waiting.length < after.waiting.length then [request] else []
  | _ => []

/-- The entries whose requests wait no more. -/
def departing (register : Register) (after : Pool) : List (Request × Nat) :=
  register.remaining.filter fun entry => !after.waiting.contains entry.1

/-- Enter and strike out what a use of the pool calls for. -/
def note (register : Register) (before : Pool) (op : PoolOp) (after : Pool) : Register :=
  (register.enter (entering before op after)).leave op.takesHead (register.departing after)

/-- The register agrees with a queue: what waits is what has entered less what has left. -/
structure Tells (register : Register) (pool : Pool) : Prop where
  orderly : register.Orderly
  queue : pool.waiting = register.remaining.map Prod.fst

variable {pool after : Pool} {now : Millis} {op : PoolOp} {reply : op.Reply}

theorem entering_eq_nil (noLonger : after.waiting.length ≤ pool.waiting.length) :
    entering pool op after = [] := by
  unfold entering
  split
  · simp [Nat.not_lt.mpr noLonger]
  · rfl

@[simp] theorem enter_nil (register : Register) : register.enter [] = register := by
  simp [enter]

/-- When a stretch of the queue goes, it is the entries of that stretch that depart. -/
theorem departing_eq {front middle back : List Request} (tells : register.Tells pool)
    (distinct : pool.waiting.Nodup) (split : pool.waiting = front ++ middle ++ back)
    (kept : after.waiting = front ++ back) :
    ∃ frontEntries backEntries,
      register.remaining = frontEntries ++ register.departing after ++ backEntries ∧
        frontEntries.map Prod.fst = front ∧
        (register.departing after).map Prod.fst = middle ∧
        backEntries.map Prod.fst = back := by
  obtain ⟨frontMiddle, backEntries, whole, joined, rfl⟩ :=
    List.map_eq_append_iff.mp (tells.queue.symm.trans split)
  obtain ⟨frontEntries, middleEntries, rfl, rfl, rfl⟩ := List.map_eq_append_iff.mp joined
  -- Waiting requests are distinct, so one of the stretch is neither in front of it nor behind.
  rw [split] at distinct
  obtain ⟨distinctFront, -, apartBack⟩ := List.nodup_append.mp distinct
  obtain ⟨-, -, apartFront⟩ := List.nodup_append.mp distinctFront
  have frontStays : (frontEntries.filter fun entry => !after.waiting.contains entry.1) = [] := by
    refine List.filter_eq_nil_iff.mpr ?_
    intro entry member
    simp [kept, List.mem_map_of_mem member]
  have backStays : (backEntries.filter fun entry => !after.waiting.contains entry.1) = [] := by
    refine List.filter_eq_nil_iff.mpr ?_
    intro entry member
    simp [kept, List.mem_map_of_mem member]
  have middleGoes : (middleEntries.filter fun entry => !after.waiting.contains entry.1) =
      middleEntries := by
    refine List.filter_eq_self.mpr ?_
    intro entry member
    have request := List.mem_map_of_mem (f := Prod.fst) member
    have notFront : entry.1 ∉ frontEntries.map Prod.fst :=
      fun inFront => apartFront _ inFront _ request rfl
    have notBack : entry.1 ∉ backEntries.map Prod.fst :=
      fun inBack => apartBack _ (List.mem_append_right _ request) _ inBack rfl
    simpa [kept, not_or] using And.intro notFront notBack
  have gone : register.departing after = middleEntries := by
    simp only [departing, whole, List.filter_append]
    rw [frontStays, middleGoes, backStays, List.nil_append, List.append_nil]
  exact ⟨frontEntries, backEntries, by rw [gone, whole], rfl, by rw [gone], rfl⟩

end Register

namespace Pool

variable {pool after : Pool} {now : Millis} {op : PoolOp} {reply : op.Reply}
  {register : Register}

theorem handed_of_isQuiet (quiet : op.IsQuiet reply) : op.handed reply = [] := by
  cases op with
  | dequeue | claimNext | withdraw =>
      cases reply with
      | none => rfl
      | some => exact quiet.elim
  | _ => rfl

/-- A stretch of the queue goes: what is handed out, behind what is discarded. -/
structure Shrinks (pool : Pool) (op : PoolOp) (reply : op.Reply) (after : Pool)
    (front discarded back : List Request) : Prop where
  split : pool.waiting = front ++ (discarded ++ op.handed reply) ++ back
  kept : after.waiting = front ++ back
  head : op.takesHead = true → front = []
  discards : discarded ≠ [] → op = .claimNext
  held : ∀ request ∈ discarded, (pool.holder? request.projectId).isSome = true

theorem Shrinks.still (same : after.waiting = pool.waiting) (nothing : op.handed reply = []) :
    Shrinks pool op reply after [] [] pool.waiting :=
  ⟨by simp [nothing], same, fun _ => rfl, by simp, by simp⟩

/-- One request joins the queue behind the others, or a stretch of the queue goes. -/
theorem Effect.queue (effect : Effect pool now op reply after) :
    (∃ request, op = .enqueue request ∧ after.waiting = pool.waiting ++ [request]) ∨
      ∃ front discarded back, Shrinks pool op reply after front discarded back := by
  cases effect with
  | unchanged op reply quiet => exact .inr ⟨_, _, _, .still rfl (handed_of_isQuiet quiet)⟩
  | claimed | freed | kept => exact .inr ⟨_, _, _, .still rfl rfl⟩
  | entered request => exact .inl ⟨request, rfl, rfl⟩
  | dequeued request rest queue =>
      exact .inr ⟨[], [], rest, by simp [queue, PoolOp.handed], rfl, fun _ => rfl, by simp, by simp⟩
  | emptied held =>
      exact .inr ⟨[], pool.waiting, [], by simp [PoolOp.handed], rfl, fun _ => rfl, fun _ => rfl,
        held⟩
  | served discarded request rest slot slots queue held =>
      exact .inr ⟨[], discarded, rest, by simp [queue, PoolOp.handed], rfl, fun _ => rfl,
        fun _ => rfl, held⟩
  | withdrawn projectId front request rest queue =>
      exact .inr ⟨front, [], rest, by simp [queue, PoolOp.handed], rfl, by simp [PoolOp.takesHead],
        by simp, by simp⟩
  | adjusted op reply quiet => exact .inr ⟨_, _, _, .still rfl (handed_of_isQuiet quiet)⟩

end Pool

namespace Register

variable {pool after : Pool} {now : Millis} {op : PoolOp} {reply : op.Reply}
  {register : Register} {request : Request} {front discarded back : List Request}

theorem Tells.append (tells : register.Tells pool)
    (grown : after.waiting = pool.waiting ++ [request]) :
    (register.note pool (.enqueue request) after).Tells after ∧ register.departing after = [] := by
  have nobody : register.departing after = [] := by
    refine List.filter_eq_nil_iff.mpr ?_
    intro entry member
    have waits : entry.1 ∈ register.remaining.map Prod.fst := List.mem_map_of_mem member
    rw [← tells.queue] at waits
    simp [grown, waits]
  have enters : entering pool (.enqueue request) after = [request] := by
    simp [entering, grown]
  have noted : register.note pool (.enqueue request) after = register.enter [request] := by
    rw [note, enters, nobody]
    rfl
  rw [noted]
  refine ⟨⟨tells.orderly.enter [request], ?_⟩, nobody⟩
  rw [remaining_enter tells.orderly, grown, tells.queue, List.map_append]
  rfl

theorem Tells.shrink (tells : register.Tells pool) (sound : pool.Sound)
    (shrinks : Pool.Shrinks pool op reply after front discarded back) :
    (register.note pool op after).Tells after ∧
      (register.departing after).map Prod.fst = discarded ++ op.handed reply := by
  obtain ⟨frontEntries, backEntries, whole, rfl, gone, rfl⟩ :=
    departing_eq tells sound.distinct.of_map shrinks.split shrinks.kept
  have noLonger : after.waiting.length ≤ pool.waiting.length := by
    simp only [shrinks.split, shrinks.kept, List.length_append]
    omega
  have head : op.takesHead = true → frontEntries = [] := by
    intro takes
    exact List.map_eq_nil_iff.mp (shrinks.head takes)
  obtain ⟨orderly, others, -⟩ := tells.orderly.leave whole head
  refine ⟨?_, gone⟩
  rw [note, entering_eq_nil noLonger, enter_nil]
  refine ⟨orderly, ?_⟩
  rw [others, shrinks.kept, List.map_append]

/-- Each use of a pool keeps the register in agreement, and who departs is handed out or, by serving
the queue, discarded for holding a slot already. -/
theorem Tells.note (tells : register.Tells pool) (sound : pool.Sound)
    (effect : Pool.Effect pool now op reply after) :
    (register.note pool op after).Tells after ∧
      ∃ discarded, (register.departing after).map Prod.fst = discarded ++ op.handed reply ∧
        (discarded ≠ [] → op = .claimNext) ∧
        ∀ request ∈ discarded, (pool.holder? request.projectId).isSome = true := by
  rcases effect.queue with ⟨request, rfl, grown⟩ | ⟨front, discarded, back, shrinks⟩
  · obtain ⟨agrees, nobody⟩ := tells.append grown
    exact ⟨agrees, [], by simp [nobody, PoolOp.handed], by simp, by simp⟩
  · obtain ⟨agrees, gone⟩ := tells.shrink sound shrinks
    exact ⟨agrees, discarded, gone, shrinks.discards, shrinks.held⟩

end Register

/-! ### Places -/

namespace Pool

variable {pool after : Pool} {now : Millis} {projectId : String} {request : Request} {place : Nat}

/-- A project waits in a place, counted from one. -/
def WaitsAt (pool : Pool) (projectId : String) (place : Nat) : Prop :=
  ∃ front request back, pool.waiting = front ++ request :: back ∧
    request.projectId = projectId ∧ place = front.length + 1

theorem waitsAt_of_position? (found : pool.position? projectId = some place) :
    pool.WaitsAt projectId place := by
  obtain ⟨index, first, rfl⟩ := Option.map_eq_some_iff.mp found
  obtain ⟨bound, own, -⟩ := List.findIdx?_eq_some_iff_getElem.mp first
  refine ⟨pool.waiting.take index, pool.waiting[index], pool.waiting.drop (index + 1), ?_,
    by simpa using own, ?_⟩
  · rw [List.getElem_cons_drop, List.take_append_drop]
  · rw [List.length_take, Nat.min_eq_left (by omega)]

theorem position?_eq_some_iff (sound : pool.Sound) :
    pool.position? projectId = some place ↔ pool.WaitsAt projectId place := by
  constructor
  · exact waitsAt_of_position?
  · rintro ⟨front, request, back, split, rfl, rfl⟩
    have elsewhere : front.findIdx? (·.projectId == request.projectId) = none := by
      refine List.findIdx?_eq_none_iff.mpr ?_
      intro other member
      simpa using (sound.other_projects split).1 other member
    simp [position?, split, List.findIdx?_append, elsewhere, List.findIdx?_cons]

/-- A project that may wait is told the place in which it then waits, and keeps an old one. -/
theorem Effect.enqueue_place (effect : Effect pool now (.enqueue request) (.ok place) after)
    (sound : pool.Sound) :
    after.position? request.projectId = some place ∧
      ∀ old, pool.WaitsAt request.projectId old → old = place := by
  have soundAfter := effect.sound sound
  cases effect with
  | unchanged _ _ quiet => exact quiet.elim
  | kept request place found =>
      refine ⟨found, ?_⟩
      intro old waits
      exact Option.some.inj (((position?_eq_some_iff sound).mpr waits).symm.trans found)
  | entered request named absent room =>
      refine ⟨(position?_eq_some_iff soundAfter).mpr ⟨pool.waiting, request, [], rfl, rfl, rfl⟩, ?_⟩
      rintro old ⟨front, other, back, split, own, -⟩
      exact absurd own (absent other (by simp [split]))
  | adjusted _ _ quiet => exact quiet.elim

/-! ### The whole history -/

/-- The register of a history that starts from a pool and a register. -/
def registerFrom (pool : Pool) (register : Register) : List Use → Register
  | [] => register
  | use :: later =>
      (pool.next use).registerFrom (register.note pool use.op (pool.next use)) later

def register (pool : Pool) (history : List Use) : Register :=
  pool.registerFrom .blank history

theorem registerFrom_tells {register : Register} (sound : pool.Sound)
    (tells : register.Tells pool) (history : List Use) :
    (pool.registerFrom register history).Tells (pool.run history) := by
  induction history generalizing pool register with
  | nil => exact tells
  | cons use later ih =>
      exact ih (sound.next use) (tells.note sound (perform_effect sound use.now use.op)).1

theorem create_register_tells (slotCount : UInt32) (capacity : Nat) (start : Millis)
    (history : List Use) :
    ((create slotCount capacity start).register history).Tells
      ((create slotCount capacity start).run history) :=
  registerFrom_tells (create_sound slotCount capacity start)
    ⟨⟨by simp [Register.blank], by simp [Register.blank], by simp [Register.blank]⟩, rfl⟩ history

/-- Whatever was done with a new pool, its queue is what has entered less what has left, unaltered
and in order; no entry leaves twice, or from the head before those ahead of it. What a use takes
away it hands out, or discards for holding a slot already when it serves the queue. Who may wait
is told the place where they stand, which is the old one if they waited before. -/
theorem queue_conserved (slotCount : UInt32) (capacity : Nat) (start : Millis)
    (history : List Use) :
    let pool := (create slotCount capacity start).run history
    let register := (create slotCount capacity start).register history
    (pool.waiting = register.remaining.map Prod.fst ∧ register.Orderly) ∧
    (∀ use : Use, ∃ discarded : List Request,
      (register.departing (pool.next use)).map Prod.fst =
        discarded ++ use.op.handed (pool.perform use.now use.op).1 ∧
      (discarded ≠ [] → use.op = .claimNext) ∧
      ∀ request ∈ discarded, (pool.holder? request.projectId).isSome = true) ∧
    ∀ (request : Request) (place : Nat), (pool.enqueue request).1 = .ok place →
      (pool.enqueue request).2.WaitsAt request.projectId place ∧
      (pool.enqueue request).2.position? request.projectId = some place ∧
      ∀ old, pool.WaitsAt request.projectId old → old = place := by
  intro pool register
  have sound : pool.Sound := (create_sound slotCount capacity start).run history
  have tells : register.Tells pool := create_register_tells slotCount capacity start history
  refine ⟨⟨tells.queue, tells.orderly⟩, ?_, ?_⟩
  · intro use
    exact (tells.note sound (perform_effect sound use.now use.op)).2
  · intro request place accepted
    have effect : Effect pool 0 (.enqueue request) (pool.enqueue request).1
      (pool.enqueue request).2 := enqueue_effect
    rw [accepted] at effect
    obtain ⟨reported, kept⟩ := effect.enqueue_place sound
    exact ⟨waitsAt_of_position? reported, reported, kept⟩

end Pool

end WorkspacePool
