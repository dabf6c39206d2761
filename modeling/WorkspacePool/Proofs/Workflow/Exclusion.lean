import WorkspacePool.Proofs.Workflow.Freeing
import WorkspacePool.Proofs.Workflow.Tracing

/-!
Calls on the provisioner for one slot at the same time. Nothing locks a slot while the provisioner
is at work, so two workers may tear down a workspace side by side, or one tears it down while
another still sets it up. `overlapping_calls` tells what it takes: both calls are for one project
and one of them tears it down, or one of the projects was freed from the slot meanwhile.
-/

namespace WorkspacePool.Workflow

variable {floor : Floor} {worker first second : Nat} {call firstCall secondCall : Call}
  {slot : SlotId} {projectId left right : String} {log earlier later : List Entry}

def Call.site? : Call → Option (SlotId × String)
  | .assign slot assignment => some (slot, assignment.projectId)
  | .release slot projectId => some (slot, projectId)
  | .publish _ | .lookUpToken _ => none

namespace Floor

/-- The call is the last step of the worker, so its answer may be yet to come. -/
def Awaits (floor : Floor) (worker : Nat) (call : Call) : Prop :=
  (floor.lastOf? worker).map (·.step) = some (.call call)

instance (floor : Floor) (worker : Nat) (call : Call) : Decidable (floor.Awaits worker call) :=
  inferInstanceAs (Decidable (_ = _))

/-- The worker put the project into the slot or found it there, and has neither freed it nor come
upon it there since. -/
structure Keeping (floor : Floor) (worker : Nat) (slot : SlotId) (projectId : String)
    (earlier : List Entry) (finding : Entry) (later : List Entry) : Prop where
  split : floor.log = earlier ++ finding :: later
  own : finding.worker = worker
  located : finding.located? = some (slot, projectId)
  kept : ∀ entry ∈ later, entry.worker = worker → entry.step ≠ .usePool (.free projectId)
  latest : ∀ entry ∈ later, entry.worker = worker → entry.located? ≠ some (slot, projectId)

/-- Since the worker put the project into the slot or found it there, another one has freed it from
the slot, having torn down its workspace or failed to set it up in the step before. -/
def Evicted (floor : Floor) (worker : Nat) (slot : SlotId) (projectId : String) : Prop :=
  ∃ earlier finding between freeing later place vacating,
    floor.Keeping worker slot projectId earlier finding (between ++ freeing :: later) ∧
    freeing.worker ≠ worker ∧ freeing.booking? = some (.free slot projectId) ∧
    last? (·.worker == freeing.worker) (earlier ++ finding :: between) = some vacating ∧
    vacating.vacated? = some (place, projectId)

end Floor

/-! ### Who awaits an answer -/

theorem last?_of_split {entry : Entry} (own : entry.worker = worker)
    (last : stepsOf worker later = []) :
    last? (·.worker == worker) (earlier ++ entry :: later) = some entry := by
  have silent : later.filter (·.worker == worker) = [] := List.map_eq_nil_iff.mp last
  simp [last?, own, silent]

theorem split_of_last? {entry : Entry} (last : last? (·.worker == worker) log = some entry) :
    ∃ earlier later, log = earlier ++ entry :: later ∧ entry.worker = worker ∧
      ∀ other ∈ later, other.worker ≠ worker := by
  obtain ⟨before, filtered⟩ := List.getLast?_eq_some_iff.mp last
  obtain ⟨front, back, rfl, -, ending⟩ := List.filter_eq_append_iff.mp filtered
  obtain ⟨between, later, rfl, -, own, silent⟩ := List.filter_eq_cons_iff.mp ending
  exact ⟨front ++ between, later, by simp, by simpa using own,
    by simpa using List.filter_eq_nil_iff.mp silent⟩

/-- A call on the provisioner rests on the slot being in the worker's custody. A workspace is set up
only in a slot that the worker has claimed. -/
theorem inCustody_of_site {strides : List Stride} (founded : Founded strides (.call call))
    (site : call.site? = some (slot, projectId)) :
    ∃ finding since, Custody strides finding since slot projectId ∧
      (call = .release slot projectId ∨ finding.booking? = some (.claim slot projectId)) := by
  cases call with
  | publish report => contradiction
  | lookUpToken userId => contradiction
  | release place owner =>
      simp only [Call.site?, Option.some.injEq, Prod.mk.injEq] at site
      obtain ⟨rfl, rfl⟩ := site
      obtain ⟨finding, since, custody⟩ := founded
      exact ⟨finding, since, custody, .inl rfl⟩
  | assign place assignment =>
      simp only [Call.site?, Option.some.injEq, Prod.mk.injEq] at site
      obtain ⟨rfl, rfl⟩ := site
      obtain ⟨finding, since, custody, booked⟩ := founded
      exact ⟨finding, since, custody, .inr booked⟩

theorem Taken.located?_of_call {taken : Taken} (calls : taken.step = .call call) :
    taken.located? = none := by
  obtain ⟨pool, now, step, answer⟩ := taken
  cases step with
  | call asked => rfl
  | readClock => contradiction
  | usePool op => contradiction

/-- What a worker's steps keep to that come before its last one, and the last one too. -/
theorem kept_until_last (kept : Taken → Prop) {since : List Stride} {entry : Entry}
    {after : List Entry} (steps : stepsOf worker later = since.map (·.toTaken))
    (silent : ∀ other ∈ after, other.worker ≠ worker) (keeps : ∀ own ∈ since, kept own.toTaken)
    (last : kept entry.toTaken) :
    ∀ other ∈ later ++ entry :: after, other.worker = worker → kept other.toTaken := by
  intro other member own
  cases List.mem_append.mp member with
  | inl between =>
      have traced := mem_stepsOf between own
      rw [steps, List.mem_map] at traced
      obtain ⟨stride, among, same⟩ := traced
      rw [← same]
      exact keeps stride among
  | inr behind =>
      cases List.mem_cons.mp behind with
      | inl here => exact here ▸ last
      | inr after => exact absurd own (silent other after)

theorem Floor.Traced.keeping (traced : floor.Traced) (awaits : floor.Awaits worker call)
    (site : call.site? = some (slot, projectId)) :
    ∃ earlier finding later, floor.Keeping worker slot projectId earlier finding later ∧
      (call = .release slot projectId ∨ finding.booking? = some (.claim slot projectId)) := by
  obtain ⟨entry, last, calls⟩ := Option.map_eq_some_iff.mp awaits
  obtain ⟨before, after, split, own, silent⟩ := split_of_last? last
  obtain ⟨strides, same, founded⟩ := traced.founded split
  rw [calls] at founded
  obtain ⟨finding, since, custody, kind⟩ := inCustody_of_site founded site
  obtain ⟨front, rfl⟩ := custody.split
  rw [List.map_append, List.map_cons, own] at same
  obtain ⟨earlier, found, later, rfl, byWorker, found_eq, -, steps⟩ := exists_entry same.symm
  rw [← found_eq] at kind
  refine ⟨earlier, found, later ++ entry :: after, ⟨by simp [split], byWorker, ?_, ?_, ?_⟩, kind⟩
  · rw [found_eq]
    exact custody.located
  · exact kept_until_last (fun taken => taken.step ≠ .usePool (.free projectId)) steps silent
      custody.kept (by simp [calls])
  · exact kept_until_last (fun taken => taken.located? ≠ some (slot, projectId)) steps silent
      custody.latest (by simp [Taken.located?_of_call calls])

/-! ### Two workers at one slot -/

theorem Taken.booking?_of_located {taken : Taken}
    (located : taken.located? = some (slot, projectId)) :
    taken.booking? = none ∨ taken.booking? = some (.claim slot projectId) := by
  obtain ⟨pool, now, step, answer⟩ := taken
  cases step with
  | readClock => contradiction
  | call call => contradiction
  | usePool op =>
      change op.located? answer = _ at located
      change op.booking? answer = none ∨ op.booking? answer = _
      cases op with
      | claim place owner session =>
          cases answer with
          | ok done => simpa [PoolOp.located?, PoolOp.booking?] using located
          | error reason => contradiction
      | claimNext =>
          cases answer with
          | some served => simpa [PoolOp.located?, PoolOp.booking?] using located
          | none => contradiction
      | holder owner => exact .inl rfl
      | pauseIfHeld place owner => exact .inl rfl
      | _ => contradiction

theorem Taken.IsTold.same_project {taken : Taken} (told : taken.IsTold) (sound : taken.pool.Sound)
    {session : String} (served : taken.pool.tenant? slot = some (left, session))
    (located : taken.located? = some (slot, right)) :
    left = right ∧ taken.booking? ≠ some (.claim slot right) := by
  have transfers := told.transfers sound
  obtain ⟨other, found⟩ := told.served sound located
  cases Taken.booking?_of_located located with
  | inl unbooked =>
      rw [unbooked] at transfers ⊢
      have same : taken.left.tenant? = taken.pool.tenant? := transfers
      rw [same, served] at found
      simp only [Option.some.injEq, Prod.mk.injEq] at found
      exact ⟨found.1, by simp⟩
  | inr booked =>
      rw [booked] at transfers
      rw [transfers.1] at served
      contradiction

/-- Of two workers who keep one slot, the later one has found there what the earlier one keeps,
unless that was freed in between. -/
theorem Floor.Recorded.keep_both (recorded : floor.Recorded) {finding found : Entry}
    {between : List Entry}
    (keeping : floor.Keeping first slot left earlier finding (between ++ found :: later))
    (located : found.located? = some (slot, right)) :
    (left = right ∧ found.booking? ≠ some (.claim slot right)) ∨
      ∃ freeing ∈ between, freeing.booking? = some (.free slot left) := by
  have split : floor.log = (earlier ++ finding :: between) ++ found :: later := by
    simp [keeping.split]
  obtain ⟨told, sound, remembers⟩ := recorded.entries _ _ _ split
  cases remembers earlier finding between slot left rfl keeping.located with
  | inl served =>
      obtain ⟨session, served⟩ := served
      exact .inl (told.same_project sound served located)
  | inr freed => exact .inr freed

theorem Floor.Traced.evicted (traced : floor.Traced) {finding freeing : Entry}
    (keeping : floor.Keeping worker slot projectId earlier finding later)
    (member : freeing ∈ later) (booked : freeing.booking? = some (.free slot projectId)) :
    floor.Evicted worker slot projectId := by
  obtain ⟨between, rest, rfl⟩ := List.append_of_mem member
  have frees := Taken.step_of_freed booked
  have foreign : freeing.worker ≠ worker := fun own => keeping.kept freeing member own frees
  have split : floor.log = (earlier ++ finding :: between) ++ freeing :: rest := by
    simp [keeping.split]
  obtain ⟨strides, same, founded⟩ := traced.founded split
  rw [frees] at founded
  obtain ⟨front, vacating, place, rfl, vacated⟩ := founded
  rw [List.map_append, List.map_singleton] at same
  obtain ⟨before, entry, after, before_eq, own, entry_eq, -, silent⟩ := exists_entry same.symm
  refine ⟨earlier, finding, between, freeing, rest, place, entry, keeping, foreign, booked, ?_, ?_⟩
  · rw [before_eq]
    exact last?_of_split own silent
  · rw [entry_eq]
    exact vacated

theorem Floor.Keeping.apart {firstLater secondEarlier secondLater : List Entry}
    {finding found : Entry}
    (keeping : floor.Keeping first slot left earlier finding firstLater)
    (other : floor.Keeping second slot right secondEarlier found secondLater)
    (different : first ≠ second) :
    (∃ between, firstLater = between ++ found :: secondLater) ∨
      ∃ between, secondLater = between ++ finding :: firstLater := by
  rcases split_cases keeping.split other.split with ⟨-, same, -⟩ | ⟨between, after, -⟩ |
    ⟨between, after, -⟩
  · exact absurd (keeping.own.symm.trans (same ▸ other.own)) different
  · exact .inl ⟨between, after⟩
  · exact .inr ⟨between, after⟩

/-- However the steps of several workers' operations fall between each other, when two workers await
calls on the provisioner for one slot at the same time, both are for the same project and one of the
calls is to tear its workspace down; or one of the projects was evicted from the slot by another
worker, whose own call on the provisioner for the project came before. -/
theorem overlapping_calls (slotCount : UInt32) (capacity : Nat) (start : Millis)
    (brokerUrl : String) (turns : List Turn) :
    let floor := (Floor.fresh slotCount capacity start).run brokerUrl turns
    ∀ first second firstCall secondCall slot left right, first ≠ second →
      floor.Awaits first firstCall → floor.Awaits second secondCall →
      firstCall.site? = some (slot, left) → secondCall.site? = some (slot, right) →
      (left = right ∧ (firstCall = .release slot left ∨ secondCall = .release slot left)) ∨
        floor.Evicted first slot left ∨ floor.Evicted second slot right := by
  intro floor first second firstCall secondCall slot left right different firstAwaits secondAwaits
    firstSite secondSite
  have traced : floor.Traced := (fresh_traced slotCount capacity start).run turns
  have recorded : floor.Recorded := (fresh_recorded slotCount capacity start).run turns
  obtain ⟨earlier, finding, later, keeping, kind⟩ := traced.keeping firstAwaits firstSite
  obtain ⟨before, found, after, other, otherKind⟩ := traced.keeping secondAwaits secondSite
  -- Whoever of the two came later has found the slot as the other one kept it.
  rcases keeping.apart other different with ⟨between, rfl⟩ | ⟨between, rfl⟩
  · cases recorded.keep_both keeping other.located with
    | inl shared =>
        obtain ⟨rfl, unclaimed⟩ := shared
        exact .inl ⟨rfl, .inr (otherKind.resolve_right unclaimed)⟩
    | inr freed =>
        obtain ⟨freeing, member, booked⟩ := freed
        exact .inr (.inl (traced.evicted keeping (by simp [member]) booked))
  · cases recorded.keep_both other keeping.located with
    | inl shared =>
        obtain ⟨rfl, unclaimed⟩ := shared
        exact .inl ⟨rfl, .inl (kind.resolve_right unclaimed)⟩
    | inr freed =>
        obtain ⟨freeing, member, booked⟩ := freed
        exact .inr (.inr (traced.evicted other (by simp [member]) booked))

def Turn.releases (worker : Nat) (projectId : String) : Turn :=
  .start worker (.handle {
    kind := .releaseRequested
    timestamp := default
    payload := { Payload.blank with projectId } })

/-- While the workspace of an idle project is torn down, a release of the project has it torn down
once more, and goes on to set up the next one in the same slot. -/
theorem calls_can_overlap :
    let pausing := (Floor.fresh 1 1 0).run "" (Turn.crowded ++
      [.start 1 (.pauseIdle (Span.ofMinutes 30))] ++ Turn.steps 1 5 1800001)
    let twice := pausing.run "" ([.releases 0 "first"] ++ Turn.steps 0 2 1800001)
    let replaced := twice.run "" (Turn.steps 0 4 1800001)
    (twice.Awaits 0 (.release ⟨1⟩ "first") ∧ twice.Awaits 1 (.release ⟨1⟩ "first")) ∧
    replaced.Awaits 0 (.assign ⟨1⟩ ⟨"second", "", "", "", "", "main"⟩) ∧
      replaced.Awaits 1 (.release ⟨1⟩ "first") := by
  decide +kernel

end WorkspacePool.Workflow
