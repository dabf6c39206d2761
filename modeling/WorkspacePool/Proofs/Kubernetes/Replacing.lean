import Mathlib
import WorkspacePool.Kubernetes.Replacement

/-!
How a pod is replaced, whatever the cluster answers. A cluster may answer anything to any call and
may take any time for it; a pause lasts at least as long as it is meant to. What a replacement asks
then has one of few forms, from which it is read when it deletes, when it creates, and what it may
report. Where the end of a wait cannot be told it breaks off, and what holds of the calls holds of
those it has made.
-/

namespace WorkspacePool.Kubernetes

open Workflow (Ticker)

/-! ### Runs against any cluster -/

/-- A cluster that answers as it likes: an answer to a call at every moment, and the time that goes
by at that moment beyond what a pause asks for. Moments count the queries that were made. -/
structure Api where
  answer : Nat → (call : PodCall) → call.Answer
  delay : Nat → Nat

structure Exchange where
  call : PodCall
  answer : call.Answer

/-- How far a dialogue has come: the calls that were made, how many queries there were, and the
time. -/
structure Course where
  exchanges : List Exchange
  moment : Nat
  time : Nat

namespace Course

def start : Course := ⟨[], 0, 0⟩

/-- The course one query later. -/
def after (course : Course) (made : List Exchange) (time : Nat) : Course :=
  ⟨course.exchanges ++ made, course.moment + 1, time⟩

def run {α : Type} (api : Api) (course : Course) : PodDialogue α → α × Course
  | .done result => (result, course)
  | .ask (.call call) next =>
      let answer := api.answer course.moment call
      (course.after [⟨call, answer⟩] (course.time + api.delay course.moment)).run api (next answer)
  | .ask .readClock next =>
      (course.after [] (course.time + api.delay course.moment)).run api (next ⟨course.time⟩)
  | .ask (.sleep span) next =>
      (course.after [] (course.time + span.millis + api.delay course.moment)).run api (next ())

end Course

/-- Whatever the cluster answers and however long it takes, a dialogue ends as it should. -/
def Ensures {α : Type} (goal : α → Course → Prop) : PodDialogue α → Course → Prop
  | .done result, course => goal result course
  | .ask (.call call) next, course =>
      ∀ answer time, course.time ≤ time →
        Ensures goal (next answer) (course.after [⟨call, answer⟩] time)
  | .ask .readClock next, course =>
      ∀ time, course.time ≤ time → Ensures goal (next ⟨course.time⟩) (course.after [] time)
  | .ask (.sleep span) next, course =>
      ∀ time, course.time + span.millis ≤ time → Ensures goal (next ()) (course.after [] time)

section Rules

variable {α β : Type} {goal stronger : α → Course → Prop} {course : Course}
  {dialogue : PodDialogue α}

theorem Ensures.run (ensures : Ensures goal dialogue course) (api : Api) :
    goal (course.run api dialogue).1 (course.run api dialogue).2 := by
  induction dialogue generalizing course with
  | done result => exact ensures
  | ask query next ih =>
      cases query with
      | call call => exact ih _ (ensures _ _ (Nat.le_add_right _ _))
      | readClock => exact ih _ (ensures _ (Nat.le_add_right _ _))
      | sleep span => exact ih _ (ensures _ (Nat.le_add_right _ _))

theorem Ensures.mono (ensures : Ensures stronger dialogue course)
    (weaken : ∀ result after, stronger result after → goal result after) :
    Ensures goal dialogue course := by
  induction dialogue generalizing course with
  | done result => exact weaken result course ensures
  | ask query next ih =>
      cases query with
      | call call => exact fun answer time later => ih _ (ensures answer time later)
      | readClock => exact fun time later => ih _ (ensures time later)
      | sleep span => exact fun time later => ih _ (ensures time later)

theorem Ensures.bind {next : α → PodDialogue β} {goal : β → Course → Prop}
    (first : Ensures (fun result after => Ensures goal (next result) after) dialogue course) :
    Ensures goal (dialogue >>= next) course := by
  induction dialogue generalizing course with
  | done result => exact first
  | ask query rest ih =>
      cases query with
      | call call => exact fun answer time later => ih _ (first answer time later)
      | readClock => exact fun time later => ih _ (first time later)
      | sleep span => exact fun time later => ih _ (first time later)

theorem Ensures.seq {next : α → PodDialogue β} {goal : β → Course → Prop}
    (first : Ensures stronger dialogue course)
    (second : ∀ result after, stronger result after → Ensures goal (next result) after) :
    Ensures goal (dialogue >>= next) course :=
  .bind (first.mono second)

theorem Ensures.pure {result : α} (reached : goal result course) :
    Ensures goal (pure result) course := reached

theorem Ensures.get {name : String}
    {next : Except ProvisionError (Option Pod) → PodDialogue α}
    (ensures : ∀ answer time, course.time ≤ time →
      Ensures goal (next answer) (course.after [⟨.get name, answer⟩] time)) :
    Ensures goal (PodDialogue.get name >>= next) course := ensures

theorem Ensures.create {pod : Pod} {next : Except ProvisionError Unit → PodDialogue α}
    (ensures : ∀ answer time, course.time ≤ time →
      Ensures goal (next answer) (course.after [⟨.create pod, answer⟩] time)) :
    Ensures goal (PodDialogue.create pod >>= next) course := ensures

theorem Ensures.delete {name : String} {next : Except ProvisionError Bool → PodDialogue α}
    (ensures : ∀ answer time, course.time ≤ time →
      Ensures goal (next answer) (course.after [⟨.delete name, answer⟩] time)) :
    Ensures goal (PodDialogue.delete name >>= next) course := ensures

theorem Ensures.now {next : Span → PodDialogue α}
    (ensures : ∀ time, course.time ≤ time →
      Ensures goal (next ⟨course.time⟩) (course.after [] time)) :
    Ensures goal (PodDialogue.now >>= next) course := ensures

theorem Ensures.sleep {span : Span} {next : Unit → PodDialogue α}
    (ensures : ∀ time, course.time + span.millis ≤ time →
      Ensures goal (next ()) (course.after [] time)) :
    Ensures goal (PodDialogue.sleep span >>= next) course := ensures

end Rules

/-! ### Waiting -/

abbrev Found := Except ProvisionError (Option Pod)

/-- Lookups of a pod that were answered so. -/
def lookedUp (name : String) (answers : List Found) : List Exchange :=
  answers.map fun answer => ⟨.get name, answer⟩

namespace Wait

/-- Whether an answer shows that the wait is over. One that failed shows nothing. -/
def shows (wait : Wait) : Found → Bool
  | .ok found => wait.isOver found
  | .error _ => false

/-- What a wait came to after lookups that were answered so. -/
inductive Ended (wait : Wait) : List Found → Settled (Except ProvisionError Unit) → Prop
  | met (earlier : List Found) (found : Option Pod)
      (before : ∀ answer ∈ earlier, wait.shows answer = false) (last : wait.isOver found = true) :
      wait.Ended (earlier ++ [.ok found]) (.settled (.ok ()))
  | timeUp (answers : List Found) (before : ∀ answer ∈ answers, wait.shows answer = false) :
      wait.Ended answers (.settled (.error (.timeout wait.what wait.timeout.seconds)))

theorem Ended.settled {wait : Wait} {answers : List Found}
    {result : Settled (Except ProvisionError Unit)} (ended : wait.Ended answers result) :
    ∃ outcome, result = .settled outcome := by
  cases ended with
  | met earlier found before last => exact ⟨_, rfl⟩
  | timeUp _ before => exact ⟨_, rfl⟩

theorem Ended.cons {wait : Wait} {answers : List Found}
    {result : Settled (Except ProvisionError Unit)} {answer : Found}
    (ended : wait.Ended answers result) (shown : wait.shows answer = false) :
    wait.Ended (answer :: answers) result := by
  cases ended with
  | met earlier found before last =>
      exact .met (answer :: earlier) found (List.forall_mem_cons.mpr ⟨shown, before⟩) last
  | timeUp _ before => exact .timeUp _ (List.forall_mem_cons.mpr ⟨shown, before⟩)

/-- From a course on, a wait ends and asks for nothing but its pod. -/
def EndsFrom (wait : Wait) (course : Course) (result : Settled (Except ProvisionError Unit))
    (after : Course) : Prop :=
  ∃ answers, wait.Ended answers result ∧
    after.exchanges = course.exchanges ++ lookedUp wait.pod answers

theorem run_succ (wait : Wait) (poll : Span) (deadline lookups : Nat) :
    wait.run poll deadline (lookups + 1) =
      PodDialogue.get wait.pod >>= fun answer =>
        if wait.shows answer then pure (.settled (.ok ()))
        else run.again wait poll deadline lookups := by
  rw [run]
  congr 1
  funext answer
  cases answer <;> rfl

/-- One lookup either shows that the wait is over or leaves it to go on. -/
theorem look_ensures {wait : Wait} {poll : Span} {deadline lookups : Nat} {course : Course}
    (again : ∀ later, course.time ≤ later.time →
      Ensures (wait.EndsFrom later) (run.again wait poll deadline lookups) later) :
    Ensures (wait.EndsFrom course) (wait.run poll deadline (lookups + 1)) course := by
  rw [run_succ]
  refine .get fun answer time later => ?_
  cases shown : wait.shows answer with
  | true =>
      cases answer with
      | error reason => simp [shows] at shown
      | ok found => exact .pure ⟨[.ok found], .met [] found (by simp) shown, rfl⟩
  | false =>
      refine (again (course.after [⟨.get wait.pod, answer⟩] time) later).mono ?_
      rintro result after ⟨answers, ended, asked⟩
      exact ⟨answer :: answers, ended.cons shown, by simp [asked, Course.after, lookedUp]⟩

/-- A wait with lookups enough left ends. -/
theorem again_ensures {wait : Wait} {poll : Span} {deadline lookups : Nat} {course : Course}
    (enough : deadline ≤ course.time + lookups * poll.millis) :
    Ensures (wait.EndsFrom course) (run.again wait poll deadline lookups) course := by
  -- Every pause lets an interval pass, so that time is up when no lookup is left.
  induction lookups generalizing course with
  | zero =>
      rw [run.again]
      refine .now fun time _ => ?_
      have up : deadline ≤ course.time := by simpa using enough
      rw [if_pos up]
      exact .pure ⟨[], .timeUp [] (by simp), by simp [Course.after, lookedUp]⟩
  | succ lookups ih =>
      rw [run.again]
      refine .now fun read afterRead => ?_
      split
      · exact .pure ⟨[], .timeUp [] (by simp), by simp [Course.after, lookedUp]⟩
      · refine .sleep fun slept afterPause => ?_
        have paused : course.time + poll.millis ≤ slept :=
          (Nat.add_le_add_right afterRead _).trans afterPause
        have left : deadline ≤ slept + lookups * poll.millis := by
          rw [Nat.succ_mul] at enough
          omega
        refine (look_ensures fun later since => ih ?_).mono ?_
        · exact left.trans (Nat.add_le_add_right since _)
        · rintro result after ⟨answers, ended, asked⟩
          exact ⟨answers, ended, by simpa [Course.after] using asked⟩

theorem enough_lookups (timeout : Span) {poll : Span} (patience : Nat)
    (pauses : 0 < poll.millis) :
    ∃ more, lookups timeout poll patience = more + 1 ∧
      timeout.millis ≤ more * poll.millis := by
  refine ⟨(timeout.millis + poll.millis - 1) / poll.millis, if_neg pauses.ne', ?_⟩
  have whole := Nat.div_add_mod (timeout.millis + poll.millis - 1) poll.millis
  have rest := Nat.mod_lt (timeout.millis + poll.millis - 1) pauses
  rw [Nat.mul_comm] at whole
  omega

/-- Every wait that pauses between its lookups ends, if its end can be told. -/
theorem start_ends (wait : Wait) {settings : Settings} (patience : Nat) {course : Course}
    (pauses : 0 < settings.pollInterval.millis)
    (told : Ticker.Reaches course.time wait.timeout) :
    Ensures (wait.EndsFrom course) (wait.start settings patience) course := by
  obtain ⟨more, count, enough⟩ := enough_lookups wait.timeout patience pauses
  rw [start, count]
  refine .now fun read afterRead => ?_
  rw [if_pos told]
  refine (look_ensures fun later since => again_ensures ?_).mono ?_
  · have : course.time ≤ later.time := afterRead.trans since
    simp only
    omega
  · rintro result after ⟨answers, ended, asked⟩
    exact ⟨answers, ended, by simpa [Course.after] using asked⟩

/-- From a course on, a wait crashes and asks for nothing, because its end cannot be told. -/
def CrashesFrom (wait : Wait) (course : Course) (result : Settled (Except ProvisionError Unit))
    (after : Course) : Prop :=
  result = .crashed ∧ after.exchanges = course.exchanges ∧
    ¬ Ticker.Reaches after.time wait.timeout

theorem start_crashes (wait : Wait) {settings : Settings} (patience : Nat) {course : Course}
    (untold : ¬ Ticker.Reaches course.time wait.timeout) :
    Ensures (wait.CrashesFrom course) (wait.start settings patience) course := by
  rw [start]
  refine .now fun read afterRead => ?_
  rw [if_neg untold]
  exact .pure ⟨rfl, by simp [Course.after], mt (Ticker.Reaches.earlier afterRead) untold⟩

theorem start_ensures (wait : Wait) {settings : Settings} (patience : Nat) (course : Course)
    (pauses : 0 < settings.pollInterval.millis) :
    Ensures (fun result after => wait.EndsFrom course result after ∨
      wait.CrashesFrom course result after) (wait.start settings patience) course := by
  by_cases told : Ticker.Reaches course.time wait.timeout
  · exact (wait.start_ends patience pauses told).mono fun _ _ => .inl
  · exact (wait.start_crashes patience told).mono fun _ _ => .inr

end Wait

/-! ### The forms of a replacement -/

/-- What is asked to create a pod and to see it ready, and what that comes to. -/
inductive Created (settings : Settings) (name : String) (pod : Pod) :
    List Exchange → Settled (Except ProvisionError Unit) → Prop
  | refused (reason : ProvisionError) :
      Created settings name pod [⟨.create pod, .error reason⟩] (.settled (.error reason))
  | waited (answers : List Found) (result : Settled (Except ProvisionError Unit))
      (ended : (Wait.forReady settings name).Ended answers result) :
      Created settings name pod (⟨.create pod, .ok ()⟩ :: lookedUp name answers) result
  | crashed : Created settings name pod [⟨.create pod, .ok ()⟩] .crashed

/-- The pod that is created for an assignment, in place of one that was found or of none. -/
def desiredPod (settings : Settings) (slot : SlotId) (assignment : Assignment)
    (current : Option Pod) : Pod :=
  ((current.getD (slotPod settings slot)).assign assignment).renew

/-- What is asked to replace a slot's pod, and what that comes to. -/
inductive Replaced (settings : Settings) (slot : SlotId) (assignment : Assignment) :
    List Exchange → Settled (Except ProvisionError Unit) → Prop
  | unseen (reason : ProvisionError) :
      Replaced settings slot assignment [⟨.get (podName settings slot), .error reason⟩]
        (.settled (.error reason))
  | absent (made : List Exchange) (result : Settled (Except ProvisionError Unit))
      (created : Created settings (podName settings slot)
        (desiredPod settings slot assignment none) made result) :
      Replaced settings slot assignment (⟨.get (podName settings slot), .ok none⟩ :: made) result
  | kept (pod : Pod) (reason : ProvisionError) :
      Replaced settings slot assignment
        [⟨.get (podName settings slot), .ok (some pod)⟩,
          ⟨.delete (podName settings slot), .error reason⟩] (.settled (.error reason))
  | crashed (pod : Pod) (wasThere : Bool) :
      Replaced settings slot assignment
        [⟨.get (podName settings slot), .ok (some pod)⟩,
          ⟨.delete (podName settings slot), .ok wasThere⟩] .crashed
  | lingering (pod : Pod) (wasThere : Bool) (answers : List Found)
      (still : ∀ answer ∈ answers, answer ≠ .ok none) :
      Replaced settings slot assignment
        (⟨.get (podName settings slot), .ok (some pod)⟩ ::
          ⟨.delete (podName settings slot), .ok wasThere⟩ ::
            lookedUp (podName settings slot) answers)
        (.settled (.error (.timeout ("deletion of pod " ++ podName settings slot)
          settings.deleteTimeout.seconds)))
  | renewed (pod : Pod) (wasThere : Bool) (answers : List Found) (made : List Exchange)
      (result : Settled (Except ProvisionError Unit))
      (created : Created settings (podName settings slot)
        (desiredPod settings slot assignment (some pod)) made result) :
      Replaced settings slot assignment
        (⟨.get (podName settings slot), .ok (some pod)⟩ ::
          ⟨.delete (podName settings slot), .ok wasThere⟩ ::
            (lookedUp (podName settings slot) (answers ++ [.ok none]) ++ made)) result

section Forms

variable {settings : Settings}

theorem createAndWait_ensures (name : String) (pod : Pod) (patience : Nat) (course : Course)
    (pauses : 0 < settings.pollInterval.millis) :
    Ensures (fun result after => ∃ made, Created settings name pod made result ∧
        after.exchanges = course.exchanges ++ made ∧
        (result = .crashed → ¬ Ticker.Reaches after.time settings.readyTimeout))
      (createAndWait settings name pod patience) course := by
  unfold createAndWait
  refine .create fun answer time later => ?_
  cases answer with
  | error reason => exact .pure ⟨_, .refused reason, rfl, nofun⟩
  | ok _ =>
      refine (Wait.start_ensures _ patience _ pauses).mono ?_
      rintro result after (⟨answers, ended, asked⟩ | ⟨rfl, asked, untold⟩)
      · obtain ⟨outcome, rfl⟩ := ended.settled
        refine ⟨_, .waited answers _ ended, ?_, nofun⟩
        simp [asked, Course.after, Wait.forReady]
      · exact ⟨_, .crashed, by simp [asked, Course.after], fun _ => untold⟩

/-- However the cluster answers, a replacement takes one of its forms. -/
theorem replacePod_ensures (slot : SlotId) (assignment : Assignment) (patience : Nat)
    (course : Course) (pauses : 0 < settings.pollInterval.millis) :
    Ensures (fun result after => ∃ made, Replaced settings slot assignment made result ∧
        after.exchanges = course.exchanges ++ made ∧
        (result = .crashed → ¬ Ticker.Reaches after.time settings.deleteTimeout ∨
          ¬ Ticker.Reaches after.time settings.readyTimeout))
      (replacePod settings slot assignment patience) course := by
  unfold replacePod
  refine .get fun answer time later => ?_
  cases answer with
  | error reason => exact .pure ⟨_, .unseen reason, rfl, nofun⟩
  | ok current =>
      cases current with
      | none =>
          refine (createAndWait_ensures _ _ patience _ pauses).mono ?_
          rintro result after ⟨made, created, asked, crash⟩
          exact ⟨_, .absent made result created, by simp [asked, Course.after], .inr ∘ crash⟩
      | some pod =>
          refine .delete fun answer time later => ?_
          cases answer with
          | error reason =>
              exact .pure ⟨_, .kept pod reason, by simp [Course.after], nofun⟩
          | ok wasThere =>
              refine (Wait.start_ensures _ patience _ pauses).seq ?_
              rintro result after (⟨answers, ended, asked⟩ | ⟨rfl, asked, untold⟩)
              · cases ended with
                | timeUp answers before =>
                    refine .pure ⟨_, .lingering pod wasThere answers ?_, ?_, nofun⟩
                    · rintro answer member rfl
                      simpa [Wait.shows, Wait.forDeletion] using before _ member
                    · simp [asked, Course.after, Wait.forDeletion]
                | met earlier found before last =>
                    obtain rfl : found = none := Option.isNone_iff_eq_none.mp last
                    refine (createAndWait_ensures _ _ patience _ pauses).mono ?_
                    rintro result finally_ ⟨made, created, askedToo, crash⟩
                    refine ⟨_, .renewed pod wasThere earlier made result created, ?_, .inr ∘ crash⟩
                    simp [askedToo, asked, Course.after, Wait.forDeletion]
              · exact .pure ⟨_, .crashed pod wasThere, by simp [asked, Course.after],
                  fun _ => .inl untold⟩

end Forms

/-! ### What the forms show -/

namespace Exchange

/-- What a lookup was answered. -/
def lookup? : Exchange → Option Found
  | ⟨.get _, answer⟩ => some answer
  | _ => none

/-- The name of a pod that was asked to be deleted. -/
def deleted? : Exchange → Option String
  | ⟨.delete name, _⟩ => some name
  | _ => none

/-- The pod that was asked to be created. -/
def created? : Exchange → Option Pod
  | ⟨.create pod, _⟩ => some pod
  | _ => none

end Exchange

/-- The pod that the first lookup shows. -/
def firstSeen : List Exchange → Option Pod
  | ⟨.get _, .ok found⟩ :: _ => found
  | _ => none

section Views

variable {name : String} {answers : List Found}

@[simp] theorem lookup?_lookedUp : (lookedUp name answers).filterMap (·.lookup?) = answers := by
  simp [lookedUp, List.filterMap_map, Exchange.lookup?]

@[simp] theorem deleted?_lookedUp : (lookedUp name answers).filterMap (·.deleted?) = [] := by
  simp [lookedUp, List.filterMap_map, Exchange.deleted?]

@[simp] theorem created?_lookedUp : (lookedUp name answers).filterMap (·.created?) = [] := by
  simp [lookedUp, List.filterMap_map, Exchange.created?]

theorem lookup_of_lookedUp {exchange : Exchange} (member : exchange ∈ lookedUp name answers) :
    ∃ answer ∈ answers, exchange = ⟨.get name, answer⟩ := by
  obtain ⟨answer, answered, same⟩ := List.mem_map.mp member
  exact ⟨answer, answered, same.symm⟩

/-- Where only one entry of a list has a property, the list splits there in one way. -/
theorem split_unique {α : Type} (distinct : α → Prop) {before after before' after' : List α}
    {entry entry' : α} (same : before ++ entry :: after = before' ++ entry' :: after')
    (plainBefore : ∀ other ∈ before, ¬ distinct other)
    (plainAfter : ∀ other ∈ after, ¬ distinct other) (holds : distinct entry') :
    before' = before ∧ entry' = entry ∧ after' = after := by
  rcases List.append_eq_append_iff.mp same with ⟨between, front, back⟩ | ⟨between, front, back⟩
  · cases between with
    | nil => simp_all
    | cons first rest =>
        obtain ⟨-, rfl⟩ := List.cons.inj back
        exact absurd holds (plainAfter entry' (by simp))
  · cases between with
    | nil => simp_all
    | cons first rest =>
        obtain ⟨rfl, -⟩ := List.cons.inj back
        exact absurd holds (plainBefore entry' (by simp [front]))

end Views

section Reading

variable {settings : Settings} {slot : SlotId} {assignment : Assignment} {log : List Exchange}
  {result : Settled (Except ProvisionError Unit)} {name : String} {pod : Pod}

/-- A creation comes first, and only lookups come behind it. -/
theorem Created.shape (created : Created settings name pod log result) :
    ∃ answer answers, log = ⟨.create pod, answer⟩ :: lookedUp name answers ∧
      (result = .settled (.ok ()) → answer = .ok () ∧
        ∃ found, .ok (some found) ∈ answers ∧ found.isReady = true) ∧
      ∀ reason, result = .settled (.error reason) → answer = .error reason ∨
        reason = .timeout ("pod " ++ name) settings.readyTimeout.seconds := by
  cases created with
  | refused reason =>
      exact ⟨.error reason, [], rfl, by simp, fun _ failed => .inl (by simpa using failed)⟩
  | waited answers _ ended =>
      refine ⟨.ok (), answers, rfl, ?_, ?_⟩
      · rintro rfl
        cases ended with
        | met earlier found before last =>
            cases found with
            | none => cases last
            | some shown => exact ⟨rfl, shown, by simp, last⟩
      · rintro reason rfl
        cases ended with
        | timeUp _ before => exact .inr rfl
  | crashed => exact ⟨.ok (), [], rfl, nofun, nofun⟩

theorem Created.settled_or_crashed (created : Created settings name pod log result) :
    (∃ outcome, result = .settled outcome) ∨ result = .crashed := by
  cases created with
  | refused reason => exact .inl ⟨_, rfl⟩
  | waited answers _ ended => exact .inl ended.settled
  | crashed => exact .inr rfl

theorem Replaced.settled_or_crashed (replaced : Replaced settings slot assignment log result) :
    (∃ outcome, result = .settled outcome) ∨ result = .crashed := by
  cases replaced with
  | absent made _ created => exact created.settled_or_crashed
  | renewed pod wasThere answers made _ created => exact created.settled_or_crashed
  | crashed pod wasThere => exact .inr rfl
  | unseen reason => exact .inl ⟨_, rfl⟩
  | kept pod reason => exact .inl ⟨_, rfl⟩
  | lingering pod wasThere answers still => exact .inl ⟨_, rfl⟩

theorem Replaced.first_lookup (replaced : Replaced settings slot assignment log result) :
    ∃ first later, log = ⟨.get (podName settings slot), first⟩ :: later ∧
      ∀ reason, first = .error reason → later = [] ∧ result = .settled (.error reason) := by
  cases replaced with
  | unseen reason => exact ⟨_, _, rfl, by simp⟩
  | absent made _ created => exact ⟨_, _, rfl, by simp⟩
  | kept pod reason => exact ⟨_, _, rfl, by simp⟩
  | crashed pod wasThere => exact ⟨_, _, rfl, by simp⟩
  | lingering pod wasThere answers still => exact ⟨_, _, rfl, by simp⟩
  | renewed pod wasThere answers made _ created => exact ⟨_, _, rfl, by simp⟩

/-- The pod is deleted once if the first lookup shows it, and else not at all. -/
theorem Replaced.deletions (replaced : Replaced settings slot assignment log result) :
    log.filterMap (·.deleted?) = (firstSeen log).toList.map fun _ => podName settings slot := by
  cases replaced with
  | unseen reason => rfl
  | absent made _ created =>
      obtain ⟨answer, answers, rfl, -⟩ := created.shape
      simp [firstSeen, lookedUp, Exchange.deleted?]
  | kept pod reason => rfl
  | crashed pod wasThere => rfl
  | lingering pod wasThere answers still => simp [firstSeen, lookedUp, Exchange.deleted?]
  | renewed pod wasThere answers made _ created =>
      obtain ⟨answer, answers, rfl, -⟩ := created.shape
      simp [firstSeen, lookedUp, Exchange.deleted?]

/-- If a pod is created, it is the one desired, the last lookup before has shown none, and only
lookups follow. -/
theorem Replaced.creation (replaced : Replaced settings slot assignment log result) :
    log.filterMap (·.created?) = [] ∨
      ∃ before answer answers,
        log = before ++ ⟨.create (desiredPod settings slot assignment (firstSeen log)), answer⟩ ::
          lookedUp (podName settings slot) answers ∧
        before.filterMap (·.created?) = [] ∧
        (before.filterMap (·.lookup?)).getLast? = some (.ok none) := by
  cases replaced with
  | unseen reason => exact .inl rfl
  | absent made _ created =>
      obtain ⟨answer, answers, rfl, -⟩ := created.shape
      exact .inr ⟨[⟨.get (podName settings slot), .ok none⟩], answer, answers, rfl, rfl, rfl⟩
  | kept pod reason => exact .inl rfl
  | crashed pod wasThere => exact .inl rfl
  | lingering pod wasThere answers still => exact .inl (by simp [lookedUp, Exchange.created?])
  | renewed pod wasThere earlier made _ created =>
      obtain ⟨answer, answers, rfl, -⟩ := created.shape
      refine .inr ⟨[⟨.get (podName settings slot), .ok (some pod)⟩,
        ⟨.delete (podName settings slot), .ok wasThere⟩] ++
          lookedUp (podName settings slot) (earlier ++ [.ok none]), answer, answers, ?_, ?_, ?_⟩
      · simp [firstSeen]
      · simp [lookedUp, Exchange.created?]
      · rw [List.filterMap_append, lookup?_lookedUp, ← List.append_assoc]
        exact List.getLast?_concat

/-- A deletion comes second. If it failed nothing comes behind it, and if no lookup behind it shows
that the pod is gone, no pod is created. -/
theorem Replaced.deletion (replaced : Replaced settings slot assignment log result) :
    log.filterMap (·.deleted?) = [] ∨
      ∃ first answer after,
        log = [first] ++ ⟨.delete (podName settings slot), answer⟩ :: after ∧
        first.deleted? = none ∧ after.filterMap (·.deleted?) = [] ∧
        (∀ reason, answer = .error reason → after = [] ∧ result = .settled (.error reason)) ∧
        (∀ wasThere, answer = .ok wasThere →
          (∀ exchange ∈ after, exchange.lookup? ≠ some (.ok none)) →
          log.filterMap (·.created?) = [] ∧
            (result = .settled (.error (.timeout ("deletion of pod " ++ podName settings slot)
              settings.deleteTimeout.seconds)) ∨ result = .crashed ∧ after = [])) := by
  cases replaced with
  | unseen reason => exact .inl rfl
  | absent made _ created =>
      obtain ⟨answer, answers, rfl, -⟩ := created.shape
      exact .inl (by simp [lookedUp, Exchange.deleted?])
  | kept pod reason =>
      exact .inr ⟨_, .error reason, [], rfl, rfl, rfl, by simp, by simp⟩
  | crashed pod wasThere =>
      exact .inr ⟨_, .ok wasThere, [], rfl, rfl, rfl, nofun, fun _ _ _ => ⟨rfl, .inr ⟨rfl, rfl⟩⟩⟩
  | lingering pod wasThere answers still =>
      refine .inr ⟨_, .ok wasThere, _, rfl, rfl, deleted?_lookedUp, by simp, ?_⟩
      intro _ _ _
      exact ⟨by simp [lookedUp, Exchange.created?], .inl rfl⟩
  | renewed pod wasThere earlier made _ created =>
      obtain ⟨answer, answers, rfl, -⟩ := created.shape
      refine .inr ⟨_, .ok wasThere, _, rfl, rfl, ?_, by simp, ?_⟩
      · simp [lookedUp, Exchange.deleted?]
      · intro _ _ unseen
        exact absurd rfl (unseen ⟨.get (podName settings slot), .ok none⟩ (by simp [lookedUp]))

/-- Wherever a deletion stands, it is the only one. -/
theorem Replaced.deletion_split {before after : List Exchange}
    {answer : Except ProvisionError Bool}
    (replaced : Replaced settings slot assignment log result)
    (split : log = before ++ ⟨.delete name, answer⟩ :: after) :
    (∀ reason, answer = .error reason → after = [] ∧ result = .settled (.error reason)) ∧
      (∀ wasThere, answer = .ok wasThere →
        (∀ exchange ∈ after, exchange.lookup? ≠ some (.ok none)) →
        log.filterMap (·.created?) = [] ∧
          (result = .settled (.error (.timeout ("deletion of pod " ++ podName settings slot)
            settings.deleteTimeout.seconds)) ∨ result = .crashed ∧ after = [])) := by
  rcases replaced.deletion with none | ⟨first, given, rest, shape, plain, others, failed, gone⟩
  · have absent := List.filterMap_eq_nil_iff.mp none ⟨.delete name, answer⟩ (by simp [split])
    simp [Exchange.deleted?] at absent
  · have unique := split_unique (fun exchange => exchange.deleted? ≠ Option.none)
      (shape.symm.trans split) (by simp [plain])
      (fun other member => not_not.mpr (List.filterMap_eq_nil_iff.mp others other member))
      (by simp [Exchange.deleted?])
    obtain ⟨-, same, rfl⟩ := unique
    cases same
    exact ⟨failed, gone⟩

/-- Wherever a creation stands, it is the only one. -/
theorem Replaced.creation_split {before after : List Exchange}
    {answer : Except ProvisionError Unit}
    (replaced : Replaced settings slot assignment log result)
    (split : log = before ++ ⟨.create pod, answer⟩ :: after) :
    (before.filterMap (·.lookup?)).getLast? = some (.ok none) ∧
      pod = desiredPod settings slot assignment (firstSeen log) ∧
      ∀ exchange ∈ after, exchange.lookup?.isSome = true := by
  rcases replaced.creation with none | ⟨front, given, answers, shape, others, last⟩
  · have absent := List.filterMap_eq_nil_iff.mp none ⟨.create pod, answer⟩ (by simp [split])
    simp [Exchange.created?] at absent
  · have unique := split_unique (fun exchange => exchange.created? ≠ Option.none)
      (shape.symm.trans split)
      (fun other member => not_not.mpr (List.filterMap_eq_nil_iff.mp others other member))
      (fun other member => not_not.mpr
        (List.filterMap_eq_nil_iff.mp created?_lookedUp other member))
      (by simp [Exchange.created?])
    obtain ⟨rfl, same, rfl⟩ := unique
    cases same
    refine ⟨last, rfl, fun exchange member => ?_⟩
    obtain ⟨found, -, rfl⟩ := lookup_of_lookedUp member
    rfl

theorem Replaced.creations (replaced : Replaced settings slot assignment log result) :
    (log.filterMap (·.created?)).length ≤ 1 := by
  rcases replaced.creation with none | ⟨front, given, answers, shape, others, -⟩
  · simp [none]
  · have single : log.filterMap (·.created?) =
        [desiredPod settings slot assignment (firstSeen log)] := by
      conv_lhs => rw [shape, List.filterMap_append, others, List.nil_append]
      exact congrArg (_ :: ·) created?_lookedUp
    simp [single]

/-- Success is reported only of a pod that was created and then seen ready. -/
theorem Replaced.success
    (replaced : Replaced settings slot assignment log (.settled (.ok ()))) :
    ∃ before pod after found, log = before ++ ⟨.create pod, .ok ()⟩ :: after ∧
      ⟨.get (podName settings slot), .ok (some found)⟩ ∈ after ∧ found.isReady = true := by
  cases replaced with
  | absent made _ created =>
      obtain ⟨answer, answers, rfl, succeeded, -⟩ := created.shape
      obtain ⟨rfl, found, seen, ready⟩ := succeeded rfl
      exact ⟨[_], _, _, found, rfl, List.mem_map.mpr ⟨_, seen, rfl⟩, ready⟩
  | renewed pod wasThere earlier made _ created =>
      obtain ⟨answer, answers, rfl, succeeded, -⟩ := created.shape
      obtain ⟨rfl, found, seen, ready⟩ := succeeded rfl
      exact ⟨_ :: _ :: _, _, _, found, rfl, List.mem_map.mpr ⟨_, seen, rfl⟩, ready⟩

/-- A failure is that of the first lookup, the deletion or the creation, or one of the waits took
too long. The failure of any other lookup is not reported. -/
theorem Replaced.failure {reason : ProvisionError}
    (replaced : Replaced settings slot assignment log (.settled (.error reason))) :
    log = [⟨.get (podName settings slot), .error reason⟩] ∨
      ⟨.delete (podName settings slot), .error reason⟩ ∈ log ∨
      (∃ pod, ⟨.create pod, .error reason⟩ ∈ log) ∨
      reason = .timeout ("deletion of pod " ++ podName settings slot)
        settings.deleteTimeout.seconds ∨
      reason = .timeout ("pod " ++ podName settings slot) settings.readyTimeout.seconds := by
  cases replaced with
  | unseen _ => exact .inl rfl
  | kept pod _ => exact .inr (.inl (by simp))
  | lingering pod wasThere answers still => exact .inr (.inr (.inr (.inl rfl)))
  | absent made _ created =>
      obtain ⟨answer, answers, rfl, -, failed⟩ := created.shape
      rcases failed reason rfl with rfl | timeout
      · exact .inr (.inr (.inl ⟨desiredPod settings slot assignment none, by simp⟩))
      · exact .inr (.inr (.inr (.inr timeout)))
  | renewed pod wasThere earlier made _ created =>
      obtain ⟨answer, answers, rfl, -, failed⟩ := created.shape
      rcases failed reason rfl with rfl | timeout
      · exact .inr (.inr (.inl ⟨desiredPod settings slot assignment (some pod), by simp⟩))
      · exact .inr (.inr (.inr (.inr timeout)))

end Reading

/-- Against any cluster, which may answer anything to any call and take any time for it, replacing a
slot's pod with pauses between lookups comes to an end, unless the end of one of its waits cannot be
told; then it crashes, and what is said here of its calls holds of those it has made. It looks the
pod up first and stops if that fails. It asks for the pod's deletion once if that lookup showed the
pod, and else never, and stops if the deletion fails. It creates at most one pod, the one it found
or the template with the new assignment and without the server's parts, and only if the lookup
before showed none; only lookups come behind a creation. Success is reported only after a creation
that succeeded and a later lookup that showed a pod ready. When no lookup after the deletion shows
the pod gone, no pod is created and the wait for the deletion is reported to have taken too long,
if it did not crash before it began. A failure of a lookup other than the first is never reported.
-/
theorem replacement_is_orderly (api : Api) (settings : Settings) (slot : SlotId)
    (assignment : Assignment) (patience : Nat) (pauses : 0 < settings.pollInterval.millis) :
    let name := podName settings slot
    let ended := Course.start.run api (replacePod settings slot assignment patience)
    let log := ended.2.exchanges
    ((∃ outcome, ended.1 = .settled outcome) ∨ ended.1 = .crashed ∧
      (¬ Ticker.Reaches ended.2.time settings.deleteTimeout ∨
        ¬ Ticker.Reaches ended.2.time settings.readyTimeout)) ∧
    (∃ first later, log = ⟨.get name, first⟩ :: later ∧
      ∀ reason, first = .error reason → later = [] ∧ ended.1 = .settled (.error reason)) ∧
    log.filterMap (·.deleted?) = (firstSeen log).toList.map (fun _ => name) ∧
    (∀ before reason after, log = before ++ ⟨.delete name, .error reason⟩ :: after →
      after = [] ∧ ended.1 = .settled (.error reason)) ∧
    (log.filterMap (·.created?)).length ≤ 1 ∧
    (∀ before pod answer after, log = before ++ ⟨.create pod, answer⟩ :: after →
      (before.filterMap (·.lookup?)).getLast? = some (.ok none) ∧
      pod = (((firstSeen log).getD (slotPod settings slot)).assign assignment).renew ∧
      ∀ exchange ∈ after, exchange.lookup?.isSome = true) ∧
    (ended.1 = .settled (.ok ()) → ∃ before pod after found,
      log = before ++ ⟨.create pod, .ok ()⟩ :: after ∧
      ⟨.get name, .ok (some found)⟩ ∈ after ∧ found.isReady = true) ∧
    (∀ before wasThere after, log = before ++ ⟨.delete name, .ok wasThere⟩ :: after →
      (∀ exchange ∈ after, exchange.lookup? ≠ some (.ok none)) →
      log.filterMap (·.created?) = [] ∧
        (ended.1 = .settled (.error
          (.timeout ("deletion of pod " ++ name) settings.deleteTimeout.seconds)) ∨
        ended.1 = .crashed ∧ after = [])) ∧
    (∀ reason, ended.1 = .settled (.error reason) → log = [⟨.get name, .error reason⟩] ∨
      ⟨.delete name, .error reason⟩ ∈ log ∨ (∃ pod, ⟨.create pod, .error reason⟩ ∈ log) ∨
      reason = .timeout ("deletion of pod " ++ name) settings.deleteTimeout.seconds ∨
      reason = .timeout ("pod " ++ name) settings.readyTimeout.seconds) := by
  intro name ended log
  obtain ⟨made, replaced, asked, crash⟩ :=
    (replacePod_ensures slot assignment patience Course.start pauses).run api
  obtain rfl : log = made := asked
  refine ⟨?_, replaced.first_lookup, replaced.deletions, ?_, replaced.creations,
    fun before pod answer after => replaced.creation_split, ?_, ?_, ?_⟩
  · exact replaced.settled_or_crashed.imp_right fun crashed => ⟨crashed, crash crashed⟩
  · intro before reason after split
    exact (replaced.deletion_split split).1 reason rfl
  · intro succeeded
    exact Replaced.success (succeeded ▸ replaced)
  · intro before wasThere after split
    exact (replaced.deletion_split split).2 wasThere rfl
  · intro reason failed
    exact Replaced.failure (failed ▸ replaced)

/-- A pod is found and deleted, a lookup fails before one shows it gone, and the new pod is not
there at once. -/
theorem replacement_waits_for_ready :
    let settings : Settings := { pollInterval := ⟨1⟩ }
    let slot : SlotId := ⟨1⟩
    let seen := slotPod settings slot
    let ready := { seen with status := some ⟨none, some [⟨"Ready", "True", []⟩], []⟩ }
    let found : Nat → Found
      | 0 => .ok (some seen)
      | 3 => .error (.api "unreachable")
      | 6 | 9 => .ok none
      | _ => .ok (some ready)
    let api : Api := ⟨fun moment => fun
      | .get _ => found moment
      | .create _ => .ok ()
      | .delete _ => .ok true, fun _ => 0⟩
    let ended := Course.start.run api (replacePod settings slot .blank 0)
    0 < settings.pollInterval.millis ∧ ended.1 = .settled (.ok ()) ∧
      ∃ before pod after found, ended.2.exchanges = before ++ ⟨.create pod, .ok ()⟩ :: after ∧
        ⟨.get (podName settings slot), .ok (some found)⟩ ∈ after ∧ found.isReady = true := by
  intro settings slot seen ready found api ended
  have pauses : 0 < settings.pollInterval.millis := by decide
  have succeeded : ended.1 = .settled (.ok ()) := by
    subst ended api found ready seen slot settings
    cbv
  obtain ⟨-, -, -, -, -, -, success, -⟩ :=
    replacement_is_orderly api settings slot .blank 0 pauses
  exact ⟨pauses, succeeded, success succeeded⟩

end WorkspacePool.Kubernetes
