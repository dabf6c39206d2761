import WorkspacePool.Proofs.Kubernetes.Replacing
import WorkspacePool.Settings.Config

/-!
How long a wait for a pod takes when lookups take no time. The pod is looked up at the start and
after every interval. The wait ends with the first lookup that shows what is waited for, and
without one right after the first lookup at which the timeout has passed. A wait whose end cannot
be told crashes instead and does not look the pod up at all.
-/

namespace WorkspacePool.Kubernetes

open Workflow (Ticker)

/-- The answer to every call, by how many calls were made before. -/
abbrev Answers := Nat → (call : PodCall) → call.Answer

/-- The calls that were made, each with its time, and the time it is. -/
structure Timeline where
  calls : List (Nat × Exchange)
  time : Nat

namespace Timeline

variable {α : Type} {answers : Answers} {timeline : Timeline}

def called (timeline : Timeline) (exchange : Exchange) : Timeline :=
  { timeline with calls := timeline.calls ++ [(timeline.time, exchange)] }

def slept (timeline : Timeline) (span : Span) : Timeline :=
  { timeline with time := timeline.time + span.millis }

/-- Run a dialogue on a cluster that answers at once. Time passes with pauses only. -/
def run (answers : Answers) (timeline : Timeline) : PodDialogue α → α × Timeline
  | .done result => (result, timeline)
  | .ask (.call call) next =>
      let answer := answers timeline.calls.length call
      (timeline.called ⟨call, answer⟩).run answers (next answer)
  | .ask .readClock next => timeline.run answers (next ⟨timeline.time⟩)
  | .ask (.sleep span) next => (timeline.slept span).run answers (next ())

@[simp] theorem run_pure (result : α) : timeline.run answers (pure result) = (result, timeline) :=
  rfl

@[simp] theorem run_get (name : String) (next : Found → PodDialogue α) :
    timeline.run answers (PodDialogue.get name >>= next) =
      (timeline.called ⟨.get name, answers timeline.calls.length (.get name)⟩).run answers
        (next (answers timeline.calls.length (.get name))) := rfl

@[simp] theorem run_now (next : Span → PodDialogue α) :
    timeline.run answers (PodDialogue.now >>= next) =
      timeline.run answers (next ⟨timeline.time⟩) := rfl

@[simp] theorem run_sleep (span : Span) (next : Unit → PodDialogue α) :
    timeline.run answers (PodDialogue.sleep span >>= next) =
      (timeline.slept span).run answers (next ()) := rfl

end Timeline

/-- Lookups of a pod, the first one at the beginning and one after every interval. -/
def polls (answers : Answers) (name : String) (begun interval count : Nat) :
    List (Nat × Exchange) :=
  (List.range count).map fun turn =>
    (begun + turn * interval, ⟨.get name, answers turn (.get name)⟩)

namespace Wait

variable {wait : Wait} {answers : Answers} {settings : Settings} {poll : Span}
  {begun deadline turn last left : Nat}

/-- The timeline of a wait before the lookup of a turn. -/
def before (wait : Wait) (answers : Answers) (poll : Span) (begun turn : Nat) : Timeline :=
  ⟨polls answers wait.pod begun poll.millis turn, begun + turn * poll.millis⟩

/-- The timeline of a wait that ends with the lookup of a turn. -/
def ending (wait : Wait) (answers : Answers) (poll : Span) (begun turn : Nat) : Timeline :=
  ⟨polls answers wait.pod begun poll.millis (turn + 1), begun + turn * poll.millis⟩

theorem run_before : (wait.before answers poll begun turn).run answers
      (wait.run poll deadline (left + 1)) =
    (wait.ending answers poll begun turn).run answers
      (if wait.shows (answers turn (.get wait.pod)) then pure (.settled (.ok ()))
        else run.again wait poll deadline left) := by
  have made : (wait.before answers poll begun turn).calls.length = turn := by
    simp [before, polls]
  have looked : (wait.before answers poll begun turn).called
      ⟨.get wait.pod, answers turn (.get wait.pod)⟩ = wait.ending answers poll begun turn := by
    simp [Timeline.called, before, ending, polls, List.range_succ]
  rw [run_succ, Timeline.run_get, made, looked]

theorem run_met (met : wait.shows (answers turn (.get wait.pod)) = true) :
    (wait.before answers poll begun turn).run answers (wait.run poll deadline (left + 1)) =
      (.settled (.ok ()), wait.ending answers poll begun turn) := by
  rw [run_before, if_pos met, Timeline.run_pure]

theorem run_timeUp (unmet : wait.shows (answers turn (.get wait.pod)) = false)
    (late : deadline ≤ begun + turn * poll.millis) :
    (wait.before answers poll begun turn).run answers (wait.run poll deadline (left + 1)) =
      (.settled (.error (.timeout wait.what wait.timeout.seconds)),
        wait.ending answers poll begun turn) := by
  rw [run_before, unmet, if_neg Bool.false_ne_true, run.again, Timeline.run_now]
  exact congrArg _ (if_pos late)

theorem run_next (unmet : wait.shows (answers turn (.get wait.pod)) = false)
    (early : begun + turn * poll.millis < deadline) :
    (wait.before answers poll begun turn).run answers (wait.run poll deadline (left + 1)) =
      (wait.before answers poll begun (turn + 1)).run answers (wait.run poll deadline left) := by
  have paused : (wait.ending answers poll begun turn).slept poll =
      wait.before answers poll begun (turn + 1) := by
    simp [Timeline.slept, before, ending, Nat.succ_mul, Nat.add_assoc]
  have ahead : ¬ deadline ≤ (wait.ending answers poll begun turn).time := Nat.not_le.mpr early
  rw [run_before, unmet, if_neg Bool.false_ne_true, run.again, Timeline.run_now, if_neg ahead,
    Timeline.run_sleep, paused]

/-- As long as no lookup shows what is waited for and the deadline lies ahead, a wait goes on. -/
theorem run_until (unmet : ∀ earlier < turn, wait.shows (answers earlier (.get wait.pod)) = false)
    (early : ∀ earlier < turn, begun + earlier * poll.millis < deadline) :
    (wait.before answers poll begun 0).run answers (wait.run poll deadline (turn + left)) =
      (wait.before answers poll begun turn).run answers (wait.run poll deadline left) := by
  induction turn generalizing left with
  | zero => rw [Nat.zero_add]
  | succ turn ih =>
      rw [Nat.add_right_comm, Nat.add_assoc, ih (fun earlier sooner => unmet earlier (by omega))
        (fun earlier sooner => early earlier (by omega))]
      exact run_next (unmet turn (by omega)) (early turn (by omega))

/-- The last turn of a wait is the first one at which the timeout has passed. -/
theorem last_turn (timeout interval : Nat) (pauses : 0 < interval) :
    timeout ≤ timeout ⌈/⌉ interval * interval ∧
      timeout ⌈/⌉ interval * interval < timeout + interval := by
  have whole := Nat.div_add_mod (timeout + interval - 1) interval
  have rest := Nat.mod_lt (timeout + interval - 1) pauses
  rw [Nat.mul_comm] at whole
  rw [Nat.ceilDiv_eq_add_pred_div]
  omega

/-- A wait whose end can be told looks the pod up for the first time when it begins. -/
theorem start_told (told : Ticker.Reaches begun wait.timeout) (patience : Nat) :
    (Timeline.mk [] begun).run answers (wait.start settings patience) =
      (wait.before answers settings.pollInterval begun 0).run answers
        (wait.run settings.pollInterval (begun + wait.timeout.millis)
          (lookups wait.timeout settings.pollInterval patience)) := by
  have fresh : Timeline.mk [] begun = wait.before answers settings.pollInterval begun 0 := by
    simp [before, polls]
  rw [start, Timeline.run_now, if_pos told, fresh]
  simp [before]

theorem start_untold (untold : ¬ Ticker.Reaches begun wait.timeout) (patience : Nat) :
    (Timeline.mk [] begun).run answers (wait.start settings patience) =
      (.crashed, ⟨[], begun⟩) := by
  rw [start, Timeline.run_now, if_neg untold, Timeline.run_pure]

theorem start_until (pauses : 0 < settings.pollInterval.millis)
    (told : Ticker.Reaches begun wait.timeout)
    (inTime : turn ≤ wait.timeout.millis ⌈/⌉ settings.pollInterval.millis)
    (unmet : ∀ earlier < turn, wait.shows (answers earlier (.get wait.pod)) = false)
    (patience : Nat) :
    ∃ left, (Timeline.mk [] begun).run answers (wait.start settings patience) =
      (wait.before answers settings.pollInterval begun turn).run answers
        (wait.run settings.pollInterval (begun + wait.timeout.millis) (left + 1)) := by
  obtain ⟨left, room⟩ := Nat.exists_eq_add_of_le inTime
  have count : lookups wait.timeout settings.pollInterval patience = turn + (left + 1) := by
    rw [lookups, if_neg pauses.ne', ← Nat.ceilDiv_eq_add_pred_div, room]
    rfl
  have early : ∀ earlier < turn,
      begun + earlier * settings.pollInterval.millis < begun + wait.timeout.millis := by
    intro earlier sooner
    have bound := (last_turn wait.timeout.millis settings.pollInterval.millis pauses).2
    have least := Nat.mul_le_mul_right settings.pollInterval.millis (Nat.le_trans sooner inTime)
    rw [Nat.succ_mul] at least
    omega
  refine ⟨left, ?_⟩
  rw [start_told told, count]
  exact run_until unmet early

end Wait

/-- A wait that looks a pod up every interval ends by the lookups alone. The first one that shows
what is waited for ends it well. If all show nothing, up to the first one that is made when the
timeout has passed, then that is the last one, and time is up. -/
structure EndsByPolls (name what : String) (timeout interval : Span) (meets : Found → Prop)
    (answers : Answers) (begun : Nat) (ended : Settled (Except ProvisionError Unit) × Timeline) :
    Prop where
  met : ∀ turn ≤ timeout.millis ⌈/⌉ interval.millis, meets (answers turn (.get name)) →
    (∀ earlier < turn, ¬ meets (answers earlier (.get name))) →
      ended = (.settled (.ok ()), ⟨polls answers name begun interval.millis (turn + 1),
        begun + turn * interval.millis⟩)
  timeUp : ∀ last, last = timeout.millis ⌈/⌉ interval.millis →
    (∀ turn ≤ last, ¬ meets (answers turn (.get name))) →
      ended = (.settled (.error (.timeout what (timeout.millis / 1000))),
        ⟨polls answers name begun interval.millis (last + 1), begun + last * interval.millis⟩) ∧
      timeout.millis ≤ last * interval.millis ∧
      last * interval.millis < timeout.millis + interval.millis
  not_missed : ∀ turn ≤ timeout.millis ⌈/⌉ interval.millis, meets (answers turn (.get name)) →
    ended.1 = .settled (.ok ())

theorem Wait.endsByPolls (wait : Wait) {settings : Settings} {meets : Found → Prop}
    (tells : ∀ found, wait.shows found = true ↔ meets found)
    (pauses : 0 < settings.pollInterval.millis) (answers : Answers) (begun patience : Nat)
    (told : Ticker.Reaches begun wait.timeout) :
    EndsByPolls wait.pod wait.what wait.timeout settings.pollInterval meets answers begun
      ((Timeline.mk [] begun).run answers (wait.start settings patience)) := by
  have unmet {found : Found} (nothing : ¬ meets found) : wait.shows found = false :=
    Bool.eq_false_iff.mpr (mt (tells found).mp nothing)
  have met : ∀ turn ≤ wait.timeout.millis ⌈/⌉ settings.pollInterval.millis,
      meets (answers turn (.get wait.pod)) →
      (∀ earlier < turn, ¬ meets (answers earlier (.get wait.pod))) →
        (Timeline.mk [] begun).run answers (wait.start settings patience) =
          (.settled (.ok ()), wait.ending answers settings.pollInterval begun turn) := by
    intro turn inTime shown first
    obtain ⟨left, reached⟩ := wait.start_until pauses told inTime
      (fun earlier sooner => unmet (first earlier sooner)) patience
    rw [reached]
    exact wait.run_met ((tells _).mpr shown)
  refine ⟨met, ?_, ?_⟩
  · intro last ceiling nothing
    have bounds := Wait.last_turn wait.timeout.millis settings.pollInterval.millis pauses
    rw [← ceiling] at bounds
    obtain ⟨left, reached⟩ := wait.start_until pauses told ceiling.le
      (fun earlier sooner => unmet (nothing earlier sooner.le)) patience
    rw [reached]
    exact ⟨wait.run_timeUp (unmet (nothing last le_rfl)) (by omega), bounds⟩
  · intro turn inTime shown
    classical
    have exists_ : ∃ turn, meets (answers turn (.get wait.pod)) := ⟨turn, shown⟩
    have sooner := Nat.find_min' exists_ shown
    rw [met (Nat.find exists_) (sooner.trans inTime) (Nat.find_spec exists_)
      fun earlier before => Nat.find_min exists_ before]

/-- Waits for a pod, on a cluster that answers at once and as it likes. A pod that is waited for to
be ready is looked up at the start and after every interval. The wait ends with the first lookup
that shows a ready pod, and without one with a timeout, right after the first lookup at which the
timeout has passed. A pod that is waited for to be gone is looked up alike. A wait that would take
until a moment that cannot be told crashes before its first lookup. -/
theorem waits_are_bounded (settings : Settings) (name : String) (answers : Answers)
    (begun patience : Nat) (pauses : 0 < settings.pollInterval.millis) :
    let ready := (Timeline.mk [] begun).run answers
      ((Wait.forReady settings name).start settings patience)
    let gone := (Timeline.mk [] begun).run answers
      ((Wait.forDeletion settings name).start settings patience)
    (Ticker.Reaches begun settings.readyTimeout →
      EndsByPolls name ("pod " ++ name) settings.readyTimeout settings.pollInterval
        (fun found => ∃ pod, found = .ok (some pod) ∧ pod.isReady = true) answers begun ready) ∧
    (¬ Ticker.Reaches begun settings.readyTimeout → ready = (.crashed, ⟨[], begun⟩)) ∧
    (Ticker.Reaches begun settings.deleteTimeout →
      EndsByPolls name ("deletion of pod " ++ name) settings.deleteTimeout settings.pollInterval
        (fun found => found = .ok none) answers begun gone) ∧
    (¬ Ticker.Reaches begun settings.deleteTimeout → gone = (.crashed, ⟨[], begun⟩)) := by
  intro ready gone
  refine ⟨fun told => ?_, fun untold => ?_, fun told => ?_, fun untold => ?_⟩
  · refine (Wait.forReady settings name).endsByPolls ?_ pauses answers begun patience told
    intro found
    rcases found with reason | none | pod <;> simp [Wait.shows, Wait.forReady]
  · exact (Wait.forReady settings name).start_untold untold patience
  · refine (Wait.forDeletion settings name).endsByPolls ?_ pauses answers begun patience told
    intro found
    rcases found with reason | none | pod <;> simp [Wait.shows, Wait.forDeletion]
  · exact (Wait.forDeletion settings name).start_untold untold patience

/-- The timeout passes between the third lookup and the fourth one, which finds the pod ready. -/
theorem late_pod_is_seen :
    let settings : Settings := { readyTimeout := ⟨2500⟩, pollInterval := ⟨1000⟩ }
    let ready := { slotPod settings ⟨1⟩ with
      status := some ⟨none, some [⟨"Ready", "True", []⟩], []⟩ }
    let answers : Answers := fun turn => fun
      | .get _ => if turn < 3 then .ok none else .ok (some ready)
      | .create _ => .ok ()
      | .delete _ => .ok true
    0 < settings.pollInterval.millis ∧
      (Timeline.mk [] 0).run answers ((Wait.forReady settings "slot").start settings 0) =
        (.settled (.ok ()), ⟨polls answers "slot" 0 1000 4, 3000⟩) := by
  intro settings ready answers
  have pauses : 0 < settings.pollInterval.millis := by decide
  have waits := (waits_are_bounded settings "slot" answers 0 0 pauses).1 (by decide)
  refine ⟨pauses, waits.met 3 (by decide) ⟨ready, rfl, by decide⟩ ?_⟩
  intro earlier sooner found
  obtain ⟨pod, shown, -⟩ := found
  have absent : answers earlier (.get "slot") = .ok none := if_pos sooner
  rw [absent] at shown
  exact absurd shown (by simp)

/-- A timeout of more seconds than can be told is accepted. A wait for a pod that is ready all the
time then crashes, whenever it begins, and has not looked the pod up. -/
theorem endless_wait_crashes :
    let environment := Settings.Environment.ofList
      [("BERTH_READY_TIMEOUT_SECS", "18446744073709551615".toUTF8.data.toList)]
    let settings : Settings := { readyTimeout := .ofSeconds 18446744073709551615 }
    let ready := { slotPod settings ⟨1⟩ with
      status := some ⟨none, some [⟨"Ready", "True", []⟩], []⟩ }
    let answers : Answers := fun _ => fun
      | .get _ => .ok (some ready)
      | .create _ => .ok ()
      | .delete _ => .ok true
    (Settings.Config.ofEnvironment environment).toOption.map (·.kubernetes) = some settings ∧
      ready.isReady = true ∧
      ∀ begun patience, (Timeline.mk [] begun).run answers
          ((Wait.forReady settings "slot").start settings patience) = (.crashed, ⟨[], begun⟩) := by
  intro environment settings ready answers
  refine ⟨by decide +kernel, by decide, fun begun patience => ?_⟩
  apply Wait.start_untold
  rw [Wait.forReady, Ticker.reaches_seconds, Ticker.lastSecond]
  omega

end WorkspacePool.Kubernetes
