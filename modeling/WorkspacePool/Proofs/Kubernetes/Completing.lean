import WorkspacePool.Proofs.Kubernetes.Replacing

/-!
How a pool is made complete. Slot after slot, its pod is looked up and created if it is missing, and
the first call that fails ends it. What is asked then has one form, whatever the cluster answers.
On a cluster that keeps its pods by name, and whose calls may fail in any pattern, the form shows
which pods there are in the end.
-/

namespace WorkspacePool.Kubernetes

/-! ### Names -/

section Names

variable {count : UInt32}

theorem podName_injective (settings : Settings) : Function.Injective (podName settings) := by
  intro slot other same
  have texts : slot.text = other.text := by simpa [podName, String.append_assoc] using same
  have numbers : slot.number.toNat = other.number.toNat := Nat.repr_inj.mp texts
  cases slot
  cases other
  exact congrArg SlotId.mk (UInt32.toNat_inj.mp numbers)

@[simp] theorem toNat_firstSlots (count : UInt32) :
    (firstSlots count).map (·.number.toNat) = List.range' 1 count.toNat := by
  rw [firstSlots, List.map_map, List.range'_eq_map_range]
  refine List.map_congr_left fun index member => ?_
  have fits : index + 1 < UInt32.size :=
    Nat.lt_of_le_of_lt (List.mem_range.mp member) count.toNat_lt
  rw [Function.comp_apply, UInt32.toNat_ofNat_of_lt' fits, Nat.add_comm]

theorem firstSlots_nodup (count : UInt32) : (firstSlots count).Nodup := by
  refine List.Nodup.of_map (·.number.toNat) ?_
  rw [toNat_firstSlots]
  exact List.nodup_range'

theorem firstSlots_subset {fewer : UInt32} (atMost : fewer ≤ count) :
    firstSlots fewer ⊆ firstSlots count := by
  rw [firstSlots, firstSlots]
  exact List.map_subset _ (List.range_subset.mpr (UInt32.le_iff_toNat_le.mp atMost))

end Names

/-! ### What is asked -/

/-- The name that a pod is kept under. -/
def Pod.key (pod : Pod) : String := pod.metadata.name.getD ""

@[simp] theorem key_slotPod (settings : Settings) (slot : SlotId) :
    (slotPod settings slot).key = podName settings slot := rfl

namespace Exchange

/-- The name of a pod that a lookup showed to be missing. -/
def missing? : Exchange → Option String
  | ⟨.get name, .ok none⟩ => some name
  | _ => none

/-- The name of a pod that was found, or that was created. -/
def shown? : Exchange → Option String
  | ⟨.get name, .ok (some _)⟩ => some name
  | ⟨.create pod, .ok ()⟩ => some pod.key
  | _ => none

def failure? : Exchange → Option ProvisionError
  | ⟨.get _, .error reason⟩ | ⟨.create _, .error reason⟩ | ⟨.delete _, .error reason⟩ => some reason
  | _ => none

end Exchange

/-- What is asked about a slot that has its pod in the end. -/
inductive Provided (settings : Settings) (slot : SlotId) : List Exchange → Prop
  | there (pod : Pod) : Provided settings slot [⟨.get (podName settings slot), .ok (some pod)⟩]
  | created : Provided settings slot
      [⟨.get (podName settings slot), .ok none⟩, ⟨.create (slotPod settings slot), .ok ()⟩]

/-- What is asked about a slot at which a call fails. -/
inductive Denied (settings : Settings) (slot : SlotId) (reason : ProvisionError) :
    List Exchange → Prop
  | unseen : Denied settings slot reason [⟨.get (podName settings slot), .error reason⟩]
  | refused : Denied settings slot reason
      [⟨.get (podName settings slot), .ok none⟩, ⟨.create (slotPod settings slot), .error reason⟩]

/-- What is asked to provide slots in their order, and what that comes to. -/
inductive Completed (settings : Settings) :
    List SlotId → List Exchange → Except ProvisionError Unit → Prop
  | done : Completed settings [] [] (.ok ())
  | ended {slot : SlotId} {rest : List SlotId} {made : List Exchange} {reason : ProvisionError}
      (denied : Denied settings slot reason made) :
      Completed settings (slot :: rest) made (.error reason)
  | next {slot : SlotId} {rest : List SlotId} {first later : List Exchange}
      {outcome : Except ProvisionError Unit} (provided : Provided settings slot first)
      (completed : Completed settings rest later outcome) :
      Completed settings (slot :: rest) (first ++ later) outcome

theorem createMissing_ensures (settings : Settings) (slots : List SlotId) (course : Course) :
    Ensures (fun outcome after => ∃ made, Completed settings slots made outcome ∧
        after.exchanges = course.exchanges ++ made)
      (createMissing settings slots) course := by
  induction slots generalizing course with
  | nil => exact .pure ⟨[], .done, (List.append_nil _).symm⟩
  | cons slot rest ih =>
      rw [createMissing]
      refine .get fun answer time later => ?_
      rcases answer with reason | found | pod
      · exact .pure ⟨_, .ended .unseen, rfl⟩
      · refine .create fun answer time later => ?_
        cases answer with
        | error reason =>
            exact .pure ⟨_, .ended .refused, by simp [Course.after]⟩
        | ok _ =>
            refine (ih _).mono ?_
            rintro outcome after ⟨made, completed, asked⟩
            exact ⟨_, .next .created completed, by simp [asked, Course.after]⟩
      · refine (ih _).mono ?_
        rintro outcome after ⟨made, completed, asked⟩
        exact ⟨_, .next (.there pod) completed, by simp [asked, Course.after]⟩

section Reading

variable {settings : Settings} {slot : SlotId} {slots others : List SlotId}
  {made later : List Exchange} {reason : ProvisionError} {outcome : Except ProvisionError Unit}

/-- The pods of the slots that were found to have none are asked to be created, in the order of the
slots, and no others. -/
def CreatesMissing (settings : Settings) (slots : List SlotId) (made : List Exchange) : Prop :=
  ∃ missing : List SlotId, missing.Sublist slots ∧
    made.filterMap (·.missing?) = missing.map (podName settings) ∧
    made.filterMap (·.created?) = missing.map (slotPod settings)

theorem CreatesMissing.append (first : CreatesMissing settings slots made)
    (second : CreatesMissing settings others later) :
    CreatesMissing settings (slots ++ others) (made ++ later) := by
  obtain ⟨missing, among, found, created⟩ := first
  obtain ⟨further, amongOthers, foundLater, createdLater⟩ := second
  refine ⟨missing ++ further, among.append amongOthers, ?_, ?_⟩
  · rw [List.filterMap_append, found, foundLater, List.map_append]
  · rw [List.filterMap_append, created, createdLater, List.map_append]

/-- A call that failed was the last one, after all slots before a certain one were provided. It was
about that slot. -/
structure FailsAt (settings : Settings) (slots : List SlotId) (made : List Exchange)
    (reason : ProvisionError) (provided : List SlotId) (slot : SlotId) : Prop where
  splits : ∃ rest, slots = provided ++ slot :: rest
  shown : made.filterMap (·.shown?) = provided.map (podName settings)
  last : ∃ earlier call, made = earlier ++ [call] ∧ call.failure? = some reason ∧
    (call.call = .get (podName settings slot) ∨ call.call = .create (slotPod settings slot)) ∧
    earlier.filterMap (·.failure?) = []

/-- What is asked to provide slots, by the answers. -/
structure Asks (settings : Settings) (slots : List SlotId) (made : List Exchange)
    (outcome : Except ProvisionError Unit) : Prop where
  creations : CreatesMissing settings slots made
  nothing_deleted : made.filterMap (·.deleted?) = []
  succeeds : outcome = .ok () → made.filterMap (·.failure?) = [] ∧
    made.filterMap (·.shown?) = slots.map (podName settings)
  fails : ∀ reason, outcome = .error reason → ∃ provided slot,
    FailsAt settings slots made reason provided slot

theorem Provided.asks (provided : Provided settings slot made) :
    Asks settings [slot] made (.ok ()) := by
  cases provided with
  | there pod => exact ⟨⟨[], by simp, rfl, rfl⟩, rfl, fun _ => ⟨rfl, rfl⟩, by simp⟩
  | created => exact ⟨⟨[slot], by simp, rfl, rfl⟩, rfl, fun _ => ⟨rfl, rfl⟩, by simp⟩

theorem Denied.failsAt (denied : Denied settings slot reason made) (rest : List SlotId) :
    FailsAt settings (slot :: rest) made reason [] slot := by
  cases denied with
  | unseen => exact ⟨⟨rest, rfl⟩, rfl, [], _, rfl, rfl, .inl rfl, rfl⟩
  | refused => exact ⟨⟨rest, rfl⟩, rfl, [_], _, rfl, rfl, .inr rfl, rfl⟩

theorem Denied.asks (denied : Denied settings slot reason made) (rest : List SlotId) :
    Asks settings (slot :: rest) made (.error reason) := by
  have fails : ∀ other, (.error reason : Except ProvisionError Unit) = .error other →
      ∃ provided halt, FailsAt settings (slot :: rest) made other provided halt := by
    rintro _ ⟨⟩
    exact ⟨[], slot, denied.failsAt rest⟩
  cases denied with
  | unseen => exact ⟨⟨[], by simp, rfl, rfl⟩, rfl, by simp, fails⟩
  | refused => exact ⟨⟨[slot], by simp, rfl, rfl⟩, rfl, by simp, fails⟩

theorem Completed.asks (completed : Completed settings slots made outcome) :
    Asks settings slots made outcome := by
  induction completed with
  | done => exact ⟨⟨[], by simp, rfl, rfl⟩, rfl, fun _ => ⟨rfl, rfl⟩, by simp⟩
  | ended denied => exact denied.asks _
  | @next slot rest first later outcome provided _ ih =>
      obtain ⟨creations, deleted, succeeds, -⟩ := provided.asks
      obtain ⟨fine, shown⟩ := succeeds rfl
      refine ⟨creations.append ih.creations, ?_, ?_, ?_⟩
      · rw [List.filterMap_append, deleted, ih.nothing_deleted, List.nil_append]
      · intro succeeded
        obtain ⟨fineLater, shownLater⟩ := ih.succeeds succeeded
        rw [List.filterMap_append, List.filterMap_append, fine, fineLater, shown, shownLater]
        exact ⟨rfl, rfl⟩
      · intro reason failing
        obtain ⟨before, halt, ⟨rest, rfl⟩, shownLater, earlier, call, rfl, failed, about, none⟩ :=
          ih.fails reason failing
        refine ⟨slot :: before, halt, ⟨rest, rfl⟩, ?_, first ++ earlier, call, ?_, failed, about, ?_⟩
        · rw [List.filterMap_append, shown, shownLater]
          rfl
        · exact (List.append_assoc ..).symm
        · rw [List.filterMap_append, fine, none, List.nil_append]

end Reading

/-! ### Clusters that keep their pods -/

/-- The pods of a namespace, each under its name. -/
abbrev Inventory := String → Option Pod

namespace Inventory

/-- The pods after a call was carried out. A pod is created where its name is free. -/
def carryOut (pods : Inventory) (stored : Pod → Pod) : PodCall → Inventory
  | .get _ => pods
  | .create pod => if (pods pod.key).isNone then Function.update pods pod.key (stored pod) else pods
  | .delete name => Function.update pods name none

/-- The answer to a call that does not fail on its way. -/
def reply (pods : Inventory) : (call : PodCall) → call.Answer
  | .get name => .ok (pods name)
  | .create pod =>
      if (pods pod.key).isNone then .ok () else .error (.api ("create pod " ++ pod.key))
  | .delete name => .ok (pods name).isSome

end Inventory

def PodCall.failing (reason : ProvisionError) : (call : PodCall) → call.Answer
  | .get _ | .create _ | .delete _ => .error reason

/-- A failure of a call on its way. The call may have been carried out all the same. -/
structure Mishap where
  reason : ProvisionError
  isCarriedOut : Bool

/-- What else a cluster does, by how many calls were made before: which calls fail on their way, and
what it stores for a pod that it creates. -/
structure Conduct where
  mishap? : Nat → Option Mishap
  stored : Nat → Pod → Pod

def Conduct.serve (conduct : Conduct) (count : Nat) (pods : Inventory) (call : PodCall) :
    call.Answer × Inventory :=
  let done := pods.carryOut (conduct.stored count) call
  match conduct.mishap? count with
  | none => (pods.reply call, done)
  | some mishap => (call.failing mishap.reason, if mishap.isCarriedOut then done else pods)

/-- A cluster that keeps its pods, and the calls that were made on it. -/
structure Fleet where
  pods : Inventory
  exchanges : List Exchange
  time : Nat

namespace Fleet

def called (fleet : Fleet) (exchange : Exchange) (pods : Inventory) : Fleet :=
  { fleet with pods, exchanges := fleet.exchanges ++ [exchange] }

def slept (fleet : Fleet) (span : Span) : Fleet :=
  { fleet with time := fleet.time + span.millis }

/-- Run a dialogue on a cluster that keeps its pods. Time passes with pauses only. -/
def run {α : Type} (conduct : Conduct) (fleet : Fleet) : PodDialogue α → α × Fleet
  | .done result => (result, fleet)
  | .ask (.call call) next =>
      let served := conduct.serve fleet.exchanges.length fleet.pods call
      (fleet.called ⟨call, served.1⟩ served.2).run conduct (next served.1)
  | .ask .readClock next => fleet.run conduct (next ⟨fleet.time⟩)
  | .ask (.sleep span) next => (fleet.slept span).run conduct (next ())

end Fleet

def Conduct.exchange (conduct : Conduct) (count : Nat) (pods : Inventory) (call : PodCall) :
    Exchange :=
  ⟨call, (conduct.serve count pods call).1⟩

/-- Calls that are made one after the other on a cluster that keeps its pods. -/
inductive Follows : Inventory → List Exchange → Inventory → Prop
  | nil (pods : Inventory) : Follows pods [] pods
  | cons {before after : Inventory} {rest : List Exchange} (conduct : Conduct) (count : Nat)
      (call : PodCall) (follows : Follows (conduct.serve count before call).2 rest after) :
      Follows before (conduct.exchange count before call :: rest) after

theorem Fleet.run_follows {α : Type} (conduct : Conduct) (fleet : Fleet)
    (dialogue : PodDialogue α) :
    ∃ made, (fleet.run conduct dialogue).2.exchanges = fleet.exchanges ++ made ∧
      Follows fleet.pods made (fleet.run conduct dialogue).2.pods := by
  induction dialogue generalizing fleet with
  | done result => exact ⟨[], (List.append_nil _).symm, .nil _⟩
  | ask query next ih =>
      cases query with
      | call call =>
          let served := conduct.serve fleet.exchanges.length fleet.pods call
          obtain ⟨made, asked, follows⟩ := ih _ (fleet.called ⟨call, served.1⟩ served.2)
          exact ⟨_, asked.trans (List.append_assoc ..), .cons conduct _ call follows⟩
      | readClock => exact ih _ fleet
      | sleep span => exact ih _ (fleet.slept span)

/-- What is ensured on every cluster is ensured on one that keeps its pods. -/
theorem Ensures.runFleet {α : Type} {goal : α → Course → Prop} {dialogue : PodDialogue α}
    {course : Course} (ensures : Ensures goal dialogue course) (conduct : Conduct) (fleet : Fleet)
    (asked : course.exchanges = fleet.exchanges) (sameTime : course.time = fleet.time) :
    ∃ after, goal (fleet.run conduct dialogue).1 after ∧
      after.exchanges = (fleet.run conduct dialogue).2.exchanges := by
  induction dialogue generalizing course fleet with
  | done result => exact ⟨course, ensures, asked⟩
  | ask query next ih =>
      cases query with
      | call call =>
          let served := conduct.serve fleet.exchanges.length fleet.pods call
          exact ih _ (ensures _ course.time le_rfl) (fleet.called ⟨call, served.1⟩ served.2)
            (congrArg (· ++ _) asked) sameTime
      | readClock =>
          have read := ensures course.time le_rfl
          rw [sameTime] at read
          exact ih _ read fleet (by simp [Course.after, asked]) rfl
      | sleep span =>
          refine ih _ (ensures _ le_rfl) (fleet.slept span) ?_ (congrArg (· + _) sameTime)
          simp [Course.after, Fleet.slept, asked]

section Keeping

variable {settings : Settings} {slots : List SlotId} {made : List Exchange}
  {outcome : Except ProvisionError Unit} {before middle after : Inventory}
  {names others : List String}

/-- Every pod stays as it is, and those that come to be have certain names. -/
def Inventory.Grows (before after : Inventory) (names : List String) : Prop :=
  ∀ name, after name = before name ∨ (before name = none ∧ name ∈ names)

theorem Inventory.Grows.refl (pods : Inventory) : pods.Grows pods names := fun _ => .inl rfl

theorem Inventory.Grows.keeps (grows : before.Grows after names) {name : String}
    (there : (before name).isSome) : after name = before name := by
  rcases grows name with same | ⟨absent, -⟩
  · exact same
  · rw [absent] at there
    contradiction

theorem Inventory.Grows.trans (first : before.Grows middle names)
    (second : middle.Grows after others) : before.Grows after (names ++ others) := by
  intro name
  rcases first name with same | ⟨absent, new⟩
  · rw [← same]
    exact (second name).imp_right fun new => ⟨new.1, List.mem_append_right _ new.2⟩
  · exact .inr ⟨absent, List.mem_append_left _ new⟩

/-- A lookup leaves the pods as they are. Unless it fails, it shows the pod or that there is none. -/
theorem Conduct.serve_get (conduct : Conduct) (count : Nat) (pods : Inventory) (name : String) :
    (conduct.serve count pods (.get name)).2 = pods ∧
      ((conduct.serve count pods (.get name)).1 = .ok (pods name) ∨
        ∃ reason, (conduct.serve count pods (.get name)).1 = .error reason) := by
  rw [Conduct.serve]
  split
  · exact ⟨rfl, .inl rfl⟩
  · exact ⟨ite_self _, .inr ⟨_, rfl⟩⟩

theorem Inventory.carryOut_create (pods : Inventory) (stored : Pod → Pod) (pod : Pod) :
    pods.Grows (pods.carryOut stored (.create pod)) [pod.key] ∧
      (pods.carryOut stored (.create pod) pod.key).isSome := by
  rw [carryOut]
  by_cases free : (pods pod.key).isNone
  · rw [if_pos free]
    refine ⟨fun name => ?_, by rw [Function.update_self]; rfl⟩
    by_cases same : name = pod.key
    · subst same
      exact .inr ⟨Option.isNone_iff_eq_none.mp free, List.mem_singleton_self _⟩
    · exact .inl (Function.update_of_ne same ..)
  · rw [if_neg free]
    exact ⟨.refl _, Option.isSome_iff_ne_none.mpr (mt Option.isNone_iff_eq_none.mpr free)⟩

theorem Conduct.serve_create (conduct : Conduct) (count : Nat) (pods : Inventory) (pod : Pod) :
    pods.Grows (conduct.serve count pods (.create pod)).2 [pod.key] ∧
      ((conduct.serve count pods (.create pod)).1 = .ok () →
        ((conduct.serve count pods (.create pod)).2 pod.key).isSome) := by
  obtain ⟨grows, there⟩ := pods.carryOut_create (conduct.stored count) pod
  rw [Conduct.serve]
  split
  · exact ⟨grows, fun _ => there⟩
  · refine ⟨?_, fun fine => nomatch fine⟩
    dsimp only
    split
    · exact grows
    · exact .refl _

/-- What a call that deletes nothing shows of the pods before and after it. -/
theorem Conduct.serve_shows (conduct : Conduct) (count : Nat) (before : Inventory) (call : PodCall)
    (kept : (conduct.exchange count before call).deleted? = none) :
    before.Grows (conduct.serve count before call).2
        ((conduct.exchange count before call).created?.toList.map Pod.key) ∧
      (∀ name, (conduct.exchange count before call).shown? = some name →
        ((conduct.serve count before call).2 name).isSome) ∧
      ∀ name, (conduct.exchange count before call).missing? = some name → before name = none := by
  cases call with
  | delete name => cases kept
  | get name =>
      obtain ⟨same, told⟩ := conduct.serve_get count before name
      rw [same]
      refine ⟨.refl _, ?_⟩
      rcases told with answer | ⟨reason, answer⟩
      · rw [Conduct.exchange, answer]
        cases found : before name with
        | none => simp [Exchange.shown?, Exchange.missing?, found]
        | some pod => simp [Exchange.shown?, Exchange.missing?, found]
      · rw [Conduct.exchange, answer]
        simp [Exchange.shown?, Exchange.missing?]
  | create pod =>
      obtain ⟨grows, there⟩ := conduct.serve_create count before pod
      refine ⟨grows, ?_, fun name absent => nomatch absent⟩
      intro name shown
      cases answer : (conduct.serve count before (.create pod)).1 with
      | error reason => simp [Conduct.exchange, answer, Exchange.shown?] at shown
      | ok _ =>
          obtain rfl : pod.key = name := by
            simpa [Conduct.exchange, answer, Exchange.shown?] using shown
          exact there answer

theorem Follows.shows (follows : Follows before made after)
    (kept : made.filterMap (·.deleted?) = []) :
    before.Grows after ((made.filterMap (·.created?)).map Pod.key) ∧
      (∀ name ∈ made.filterMap (·.shown?), (after name).isSome) ∧
      ∀ name ∈ made.filterMap (·.missing?), before name = none := by
  induction follows with
  | nil pods => exact ⟨.refl _, by simp, by simp⟩
  | @cons before after rest conduct count call _ ih =>
      obtain ⟨keptFirst, keptLater⟩ := List.forall_mem_cons.mp (List.filterMap_eq_nil_iff.mp kept)
      obtain ⟨grows, shown, missing⟩ := conduct.serve_shows count before call keptFirst
      obtain ⟨growsLater, shownLater, missingLater⟩ :=
        ih (List.filterMap_eq_nil_iff.mpr keptLater)
      refine ⟨?_, fun name told => ?_, fun name told => ?_⟩
      · rw [List.filterMap_eq_flatMap_toList, List.flatMap_cons, List.map_append,
          ← List.filterMap_eq_flatMap_toList]
        exact grows.trans growsLater
      · obtain ⟨exchange, member, same⟩ := List.mem_filterMap.mp told
        rcases List.mem_cons.mp member with rfl | later
        · have there := shown name same
          rw [growsLater.keeps there]
          exact there
        · exact shownLater name (List.mem_filterMap.mpr ⟨exchange, later, same⟩)
      · obtain ⟨exchange, member, same⟩ := List.mem_filterMap.mp told
        rcases List.mem_cons.mp member with rfl | later
        · exact missing name same
        · have absent := missingLater name (List.mem_filterMap.mpr ⟨exchange, later, same⟩)
          by_contra there
          rw [grows.keeps (Option.isSome_iff_ne_none.mpr there)] at absent
          exact there absent

theorem eq_filter_of_sublist {α : Type} {part whole : List α} {kept : α → Bool}
    (among : part.Sublist whole) (distinct : whole.Nodup)
    (tells : ∀ entry ∈ whole, entry ∈ part ↔ kept entry = true) : part = whole.filter kept := by
  have all : part.filter kept = part :=
    List.filter_eq_self.mpr fun entry member => (tells entry (among.subset member)).mp member
  have within : part.Sublist (whole.filter kept) := all ▸ among.filter kept
  have others : whole.filter kept ⊆ part := fun entry member =>
    (tells entry (List.mem_of_mem_filter member)).mpr (List.of_mem_filter member)
  exact within.eq_of_length_le ((distinct.filter kept).subperm others).length_le

/-- What becomes of the pods of a cluster when slots are provided. -/
structure Fills (settings : Settings) (slots : List SlotId) (made : List Exchange)
    (outcome : Except ProvisionError Unit) (before after : Inventory) : Prop where
  /-- The pods that were there stay as they are, and the only new ones are those that were created. -/
  grows : before.Grows after ((made.filterMap (·.created?)).map Pod.key)
  new : ∀ pod ∈ made.filterMap (·.created?), before pod.key = none
  succeeds : outcome = .ok () → (∀ slot ∈ slots, (after (podName settings slot)).isSome) ∧
    made.filterMap (·.created?) = (slots.filter fun slot =>
      (before (podName settings slot)).isNone).map (slotPod settings)
  fails : ∀ reason provided slot, FailsAt settings slots made reason provided slot →
    ∀ other ∈ provided, (after (podName settings other)).isSome

theorem Asks.fills (asks : Asks settings slots made outcome) (distinct : slots.Nodup)
    (follows : Follows before made after) : Fills settings slots made outcome before after := by
  obtain ⟨missing, among, found, created⟩ := asks.creations
  obtain ⟨grows, shown, absent⟩ := follows.shows asks.nothing_deleted
  have lacking : ∀ slot ∈ missing, before (podName settings slot) = none := by
    intro slot member
    exact absent _ (found ▸ List.mem_map_of_mem member)
  refine ⟨grows, ?_, ?_, ?_⟩
  · intro pod member
    rw [created] at member
    obtain ⟨slot, lacks, rfl⟩ := List.mem_map.mp member
    exact lacking slot lacks
  · intro succeeded
    have all : ∀ slot ∈ slots, (after (podName settings slot)).isSome := by
      intro slot member
      exact shown _ ((asks.succeeds succeeded).2 ▸ List.mem_map_of_mem member)
    refine ⟨all, ?_⟩
    rw [created, eq_filter_of_sublist among distinct fun slot member => ?_]
    refine ⟨fun lacks => Option.isNone_iff_eq_none.mpr (lacking slot lacks), fun none => ?_⟩
    -- A pod that is there in the end and was not before has been created.
    rcases grows (podName settings slot) with same | ⟨-, new⟩
    · have there := all slot member
      rw [same, Option.isNone_iff_eq_none.mp none] at there
      contradiction
    · obtain ⟨pod, made, named⟩ := List.mem_map.mp new
      rw [created] at made
      obtain ⟨other, lacks, rfl⟩ := List.mem_map.mp made
      obtain rfl := podName_injective settings named
      exact lacks
  · intro reason provided slot fails other member
    exact shown _ (fails.shown ▸ List.mem_map_of_mem member)

theorem Fills.nothing_new (fills : Fills settings slots made outcome before after)
    (asks : Asks settings slots made outcome)
    (all : ∀ slot ∈ slots, (before (podName settings slot)).isSome) :
    made.filterMap (·.created?) = [] ∧ after = before := by
  have none : made.filterMap (·.created?) = [] := by
    refine List.eq_nil_iff_forall_not_mem.mpr fun pod member => ?_
    obtain ⟨missing, among, -, created⟩ := asks.creations
    have absent := fills.new pod member
    rw [created] at member
    obtain ⟨slot, lacks, rfl⟩ := List.mem_map.mp member
    have there := all slot (among.subset lacks)
    rw [← key_slotPod, absent] at there
    contradiction
  refine ⟨none, funext fun name => ?_⟩
  have grows := fills.grows
  rw [none] at grows
  exact (grows name).resolve_right fun new => List.not_mem_nil new.2

end Keeping

/-- On a cluster that keeps its pods, completing a pool asks as it does everywhere, and the pods
become what the calls show. -/
theorem completePool_fills (settings : Settings) (count : UInt32) (conduct : Conduct)
    (fleet : Fleet) :
    let ended := fleet.run conduct (completePool settings count)
    ∃ made, ended.2.exchanges = fleet.exchanges ++ made ∧
      Asks settings (firstSlots count) made ended.1 ∧
      Fills settings (firstSlots count) made ended.1 fleet.pods ended.2.pods := by
  intro ended
  obtain ⟨after, ⟨made, completed, asked⟩, same⟩ :=
    (createMissing_ensures settings (firstSlots count) ⟨fleet.exchanges, 0, fleet.time⟩).runFleet
      conduct fleet rfl rfl
  obtain ⟨served, askedToo, follows⟩ := fleet.run_follows conduct (completePool settings count)
  obtain rfl : made = served := List.append_cancel_left (asked.symm.trans (same.trans askedToo))
  exact ⟨made, askedToo, completed.asks, completed.asks.fills (firstSlots_nodup count) follows⟩

/-- How a pool of slots is made complete. The slots are numbered from one and no two of them have
pods of one name. Whatever the cluster answers, the pods that lookups show to be missing are asked
to be created from the template, in the order of their slots, and no others; nothing is deleted; and
the first call that fails is the last one and its reason the outcome, when all slots before have
been seen or created. On a cluster that keeps its pods, and whose calls fail in any pattern, every
pod that was there stays as it is, and the slots that were provided have their pods, which are all
of them if the pool was completed. To complete it again up to the same count or a smaller one then
creates nothing and changes nothing, whatever fails. -/
theorem pool_is_completed (settings : Settings) (count : UInt32) :
    ((firstSlots count).map (·.number.toNat) = List.range' 1 count.toNat ∧
      Function.Injective (podName settings) ∧
      ∀ slot, (slotPod settings slot).metadata.name = some (podName settings slot)) ∧
    (∀ (api : Api) (course : Course),
      let ended := course.run api (completePool settings count)
      ∃ made, ended.2.exchanges = course.exchanges ++ made ∧
        Asks settings (firstSlots count) made ended.1) ∧
    ∀ (conduct : Conduct) (fleet : Fleet),
      let ended := fleet.run conduct (completePool settings count)
      (∃ made, ended.2.exchanges = fleet.exchanges ++ made ∧
        Asks settings (firstSlots count) made ended.1 ∧
        Fills settings (firstSlots count) made ended.1 fleet.pods ended.2.pods) ∧
      (ended.1 = .ok () → ∀ (later : Conduct) (fewer : UInt32), fewer ≤ count →
        let again := ended.2.run later (completePool settings fewer)
        ∃ made, again.2.exchanges = ended.2.exchanges ++ made ∧
          made.filterMap (·.created?) = [] ∧ again.2.pods = ended.2.pods) := by
  refine ⟨⟨toNat_firstSlots count, podName_injective settings, fun _ => rfl⟩, ?_, ?_⟩
  · intro api course ended
    obtain ⟨made, completed, asked⟩ :=
      (createMissing_ensures settings (firstSlots count) course).run api
    exact ⟨made, asked, completed.asks⟩
  · intro conduct fleet ended
    obtain ⟨made, asked, asks, fills⟩ := completePool_fills settings count conduct fleet
    refine ⟨⟨made, asked, asks, fills⟩, fun succeeded later fewer atMost => ?_⟩
    obtain ⟨again, askedAgain, asksAgain, fillsAgain⟩ :=
      completePool_fills settings fewer later ended.2
    have all := (fills.succeeds succeeded).1
    have nothing := fillsAgain.nothing_new asksAgain fun slot member =>
      all slot (firstSlots_subset atMost member)
    exact ⟨again, askedAgain, nothing⟩

/-- The second of three pods is there, and the third is refused. -/
example :
    let pods : Inventory := Function.update (fun _ => none) "workspace-slot-2"
      (slotPod {} ⟨2⟩)
    let conduct : Conduct :=
      ⟨fun count => if count = 4 then some ⟨.api "quota exceeded", false⟩ else none, fun _ => id⟩
    let ended := Fleet.run conduct ⟨pods, [], 0⟩ (completePool {} 3)
    (ended.1, (ended.2.exchanges.filterMap (·.created?)).map Pod.key,
        (ended.2.pods "workspace-slot-1").isSome) =
      (.error (.api "quota exceeded"), ["workspace-slot-1", "workspace-slot-3"], true) := by
  decide

end WorkspacePool.Kubernetes
