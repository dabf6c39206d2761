import WorkspacePool.Proofs.Kubernetes.Waiting
import WorkspacePool.Proofs.Settings.Acceptance
import WorkspacePool.Simulation.Schedule

/-!
The timers that an accepted configuration sets. The intervals of the two loops are never zero, but
the interval between two lookups of a pod may be, and then a wait looks the pod up without end. Any
number of seconds that fits 64 bits is accepted, and a loop whose first tick lies beyond the last
second that can be told crashes when it is started.
-/

namespace WorkspacePool

namespace Workflow.Ticker

variable {now : Nat} {period : Span}

theorem start?_of_positive (positive : 0 < period.millis) :
    start? now period =
      if Reaches now period then some ⟨now + period.millis, period.millis⟩ else none := by
  simp [start?, positive]

end Workflow.Ticker

namespace Simulation

open Workflow (Ticker Steps)

variable {now : Nat} {interval : Span}

/-- A loop that is started rests until its first tick, provided that the moment of that can be told.
Otherwise it has crashed. -/
theorem Loop.start_phase (positive : 0 < interval.millis) (pass : Steps Unit) :
    (Loop.start now interval pass).phase =
      if Ticker.Reaches now interval then .resting ⟨now + interval.millis, interval.millis⟩
      else .crashed := by
  rw [Loop.start, Ticker.start?_of_positive positive]
  split <;> rfl

end Simulation

namespace Kubernetes.Wait

open Workflow (Ticker)

variable {settings : Settings} {wait : Wait} {poll : Span} {deadline lookups : Nat}
  {course : Course}

/-- A wait makes one call for each lookup that it has left, and no other. -/
theorem run_calls {count : Nat} (room : course.exchanges.length + lookups ≤ count) :
    Ensures (fun _ after => after.exchanges.length ≤ count) (wait.run poll deadline lookups)
      course := by
  induction lookups generalizing course with
  | zero =>
      rw [run]
      exact .pure (by simpa using room)
  | succ lookups ih =>
      rw [run_succ]
      refine .get fun answer time _ => ?_
      let made : Exchange := ⟨.get wait.pod, answer⟩
      have left : (course.exchanges ++ [made]).length + lookups ≤ count := by
        rw [List.length_append, List.length_singleton]
        omega
      have few := Nat.le_of_add_right_le left
      split
      · exact .pure few
      · rw [run.again]
        refine .now fun read _ => ?_
        split
        · exact .pure (by simpa [Course.after] using few)
        · exact .sleep fun slept _ => ih (by simpa [Course.after] using left)

/-- However the cluster answers and however long it takes, the wait is settled after so many lookups
at most, if its end can be told. -/
def SettlesWithin (wait : Wait) (settings : Settings) (lookups : Nat) : Prop :=
  ∀ (api : Api) (begun patience : Nat), Ticker.Reaches begun wait.timeout →
    let ended := (Course.mk [] 0 begun).run api (wait.start settings patience)
    ∃ outcome, ended.1 = .settled outcome ∧ ended.2.exchanges.length ≤ lookups

theorem settlesWithin (wait : Wait) (pauses : 0 < settings.pollInterval.millis) :
    wait.SettlesWithin settings (wait.timeout.millis ⌈/⌉ settings.pollInterval.millis + 1) := by
  intro api begun patience told ended
  have few : Ensures (fun _ after => after.exchanges.length ≤
      wait.timeout.millis ⌈/⌉ settings.pollInterval.millis + 1)
      (wait.start settings patience) (Course.mk [] 0 begun) := by
    rw [start, Wait.lookups, if_neg pauses.ne', ← Nat.ceilDiv_eq_add_pred_div]
    refine .now fun time _ => ?_
    rw [if_pos told]
    exact run_calls (by simp [Course.after])
  have ends : Ensures (wait.EndsFrom (Course.mk [] 0 begun)) (wait.start settings patience)
      (Course.mk [] 0 begun) := wait.start_ends patience pauses told
  obtain ⟨answers, metOrLate, -⟩ := ends.run api
  obtain ⟨outcome, settled⟩ := metOrLate.settled
  exact ⟨outcome, settled, few.run api⟩

/-- As long as no lookup shows what is waited for, the wait makes as many lookups as one has
patience for, all at one moment, and is given up, if its end can be told. -/
def Spins (wait : Wait) (settings : Settings) : Prop :=
  ∀ (answers : Answers) (begun patience : Nat), Ticker.Reaches begun wait.timeout →
    (∀ turn, wait.shows (answers turn (.get wait.pod)) = false) →
    (Timeline.mk [] begun).run answers (wait.start settings patience) =
      (.givenUp, ⟨polls answers wait.pod begun 0 patience, begun⟩)

theorem spins (wait : Wait) (hasty : settings.pollInterval.millis = 0)
    (patient : 0 < wait.timeout.millis) : wait.Spins settings := by
  intro answers begun patience told unmet
  have early : ∀ earlier < patience, begun + earlier * settings.pollInterval.millis <
      begun + wait.timeout.millis := by
    intro earlier _
    rw [hasty]
    omega
  have reached : (wait.before answers settings.pollInterval begun 0).run answers
      (wait.run settings.pollInterval (begun + wait.timeout.millis) (patience + 0)) = _ :=
    wait.run_until (fun earlier _ => unmet earlier) early
  rw [wait.start_told told, Wait.lookups, if_pos hasty]
  refine reached.trans ?_
  rw [run, Timeline.run_pure]
  simp [before, hasty]

/-- The wait crashes before its first lookup if its end cannot be told. -/
def CrashesUntold (wait : Wait) (settings : Settings) : Prop :=
  ∀ (answers : Answers) (begun patience : Nat), ¬ Ticker.Reaches begun wait.timeout →
    (Timeline.mk [] begun).run answers (wait.start settings patience) = (.crashed, ⟨[], begun⟩)

end Kubernetes.Wait

namespace Settings

open Kubernetes (Wait)
open Simulation (World)
open Text.Decimal (WritesNatural)
open Workflow (Ticker)

variable {environment : Environment} {config : Config} {key : Key} {default span : Span}

/-- What can be read off the configuration of an environment tells that there is one. -/
theorem accepted_of_told {α : Type} (environment : Environment) (read : Config → α) (value : α)
    (told : (Config.ofEnvironment environment).toOption.map read = some value) :
    ∃ config, Config.ofEnvironment environment = .ok config ∧ read config = value := by
  cases outcome : Config.ofEnvironment environment with
  | error fault =>
      rw [outcome] at told
      contradiction
  | ok config =>
      rw [outcome] at told
      exact ⟨config, rfl, Option.some.inj told⟩

/-- A number of seconds that may not be zero is not. -/
theorem positive_of_accepted (accepted : Config.ofEnvironment environment = .ok config)
    (kind : key.kind = .natural 18446744073709551615 true)
    (set : environment.Sets key (Lasts Span.ofSeconds) default span)
    (positive : 0 < default.millis) : 0 < span.millis := by
  rcases set with ⟨value, present, number, writes, rfl⟩ | ⟨-, rfl⟩
  · by_contra none
    obtain rfl : number = 0 := by
      simp only [Span.ofSeconds] at none
      omega
    have blamed : Blamed environment key (.zero key) :=
      .zero value present (by rw [kind]; exact ⟨0, writes, Nat.zero_le _⟩) (by rw [kind]; exact writes)
    exact spared_of_accepted accepted blamed
  · exact positive

theorem seconds_of_set (seconds : Nat)
    (set : environment.Sets key (Lasts Span.ofSeconds) (Span.ofSeconds seconds) span) :
    ∃ number, span = Span.ofSeconds number := by
  rcases set with ⟨_, _, number, _, whole⟩ | ⟨_, whole⟩
  · exact ⟨number, whole⟩
  · exact ⟨seconds, whole⟩

/-- What timers do under a configuration that was accepted. The intervals of both loops are positive.
The interval between lookups of a pod is zero exactly when its variable is set to a zero. Every
timeout and every interval of a loop is a whole number of seconds, and the moment that it ends at
can be told as long as it lies within the seconds that can be counted. A loop rests until its first
tick if the moment of that can be told, and else has crashed. A wait whose end can be told is
settled after a limited number of lookups, whatever the cluster does, if it pauses between them; one
without pauses makes any number of lookups before its timeout has passed. A wait whose end cannot be
told crashes. -/
theorem accepted_timers (accepted : Config.ofEnvironment environment = .ok config) :
    (0 < config.upkeep.pauseInterval.millis ∧ 0 < config.upkeep.queueInterval.millis) ∧
    (config.kubernetes.pollInterval.millis = 0 ↔
      ∃ value, environment.Present .readyPollMs value ∧ WritesNatural value 0) ∧
    (∀ span ∈ [config.upkeep.pauseInterval, config.upkeep.queueInterval,
        config.kubernetes.readyTimeout, config.kubernetes.deleteTimeout],
      ∃ seconds, span = Span.ofSeconds seconds ∧
        ∀ now, Ticker.Reaches now span ↔ now / 1000 + seconds ≤ Ticker.lastSecond) ∧
    config.kubernetes.deleteTimeout = Span.ofSeconds 60 ∧
    (∀ (world : World) (brokerUrl : String), ∃ pauser server,
      (world.spawn brokerUrl config.upkeep).loops = world.loops ++ [pauser, server] ∧
      pauser.phase = (if Ticker.Reaches world.time config.upkeep.pauseInterval then
        .resting ⟨world.time + config.upkeep.pauseInterval.millis,
          config.upkeep.pauseInterval.millis⟩ else .crashed) ∧
      server.phase = (if Ticker.Reaches world.time config.upkeep.queueInterval then
        .resting ⟨world.time + config.upkeep.queueInterval.millis,
          config.upkeep.queueInterval.millis⟩ else .crashed)) ∧
    ∀ name, ∀ wait ∈ [Wait.forReady config.kubernetes name,
        Wait.forDeletion config.kubernetes name],
      (0 < config.kubernetes.pollInterval.millis →
        wait.SettlesWithin config.kubernetes
          (wait.timeout.millis ⌈/⌉ config.kubernetes.pollInterval.millis + 1)) ∧
      (config.kubernetes.pollInterval.millis = 0 → 0 < wait.timeout.millis →
        wait.Spins config.kubernetes) ∧
      wait.CrashesUntold config.kubernetes := by
  have taken := ofEnvironment_takes environment config accepted
  have pauses := positive_of_accepted accepted rfl taken.pauseInterval (by decide)
  have serves := positive_of_accepted accepted rfl taken.queueInterval (by decide)
  refine ⟨⟨pauses, serves⟩, ⟨?_, ?_⟩, ?_, taken.deleteTimeout, ?_, ?_⟩
  · intro hasty
    rcases taken.pollInterval with ⟨value, present, number, writes, same⟩ | ⟨-, same⟩
    · obtain rfl : number = 0 := by simpa [same, Span.ofMillis] using hasty
      exact ⟨value, present, writes⟩
    · rw [same] at hasty
      contradiction
  · rintro ⟨value, present, zero⟩
    rcases taken.pollInterval with ⟨other, too, number, writes, same⟩ | ⟨absent, -⟩
    · obtain rfl := present.unique too
      obtain rfl := zero.unique writes
      rw [same]
      rfl
    · exact absurd present (absent value)
  · intro span member
    have whole : ∃ seconds, span = Span.ofSeconds seconds := by
      simp only [List.mem_cons, List.not_mem_nil, or_false] at member
      rcases member with rfl | rfl | rfl | rfl
      · exact seconds_of_set 60 taken.pauseInterval
      · exact seconds_of_set 10 taken.queueInterval
      · exact seconds_of_set 120 taken.readyTimeout
      · exact ⟨60, taken.deleteTimeout⟩
    obtain ⟨seconds, rfl⟩ := whole
    exact ⟨seconds, rfl, fun now => Ticker.reaches_seconds now seconds⟩
  · intro world brokerUrl
    exact ⟨_, _, rfl, Simulation.Loop.start_phase pauses _, Simulation.Loop.start_phase serves _⟩
  · intro name wait _
    exact ⟨wait.settlesWithin, wait.spins, fun _ _ patience untold =>
      wait.start_untold untold patience⟩

/-- An interval of more seconds than can be counted is accepted, and the loop has crashed once it is
started. The other loop rests. -/
theorem endless_interval_crashes :
    let environment := Environment.ofList
      [("BERTH_PAUSE_INTERVAL_SECS", "18446744073709551615".toUTF8.data.toList)]
    ∃ config, Config.ofEnvironment environment = .ok config ∧
      config.upkeep.pauseInterval = Span.ofSeconds 18446744073709551615 ∧
      ∀ (world : World) (brokerUrl : String), ∃ pauser server,
        (world.spawn brokerUrl config.upkeep).loops = world.loops ++ [pauser, server] ∧
        pauser.phase = .crashed ∧
        (world.time = 0 → server.phase = .resting ⟨10000, 10000⟩) := by
  intro environment
  obtain ⟨config, accepted, upkeep⟩ := accepted_of_told environment Config.upkeep
    { pauseInterval := .ofSeconds 18446744073709551615 } (by decide +kernel)
  refine ⟨config, accepted, congrArg _ upkeep, fun world brokerUrl => ?_⟩
  obtain ⟨pauser, server, started, crashed, rests⟩ :=
    (accepted_timers accepted).2.2.2.2.1 world brokerUrl
  rw [upkeep] at crashed rests
  refine ⟨pauser, server, started, ?_, fun early => ?_⟩
  · rw [crashed, if_neg]
    rw [Ticker.reaches_seconds, Nat.not_le, Ticker.lastSecond]
    omega
  · rw [rests, early]
    rfl

/-- An interval of zero between lookups is accepted. Waiting two minutes for a pod that cannot be
found then makes as many lookups as one has patience for before any time has passed. A timeout is
accepted as well that no clock can tell the end of. -/
theorem hasty_lookups_are_accepted :
    let hasty := Environment.ofList [("BERTH_READY_POLL_MS", "0".toUTF8.data.toList)]
    let endless := Environment.ofList
      [("BERTH_READY_TIMEOUT_SECS", "18446744073709551615".toUTF8.data.toList)]
    let missing : Kubernetes.Answers := fun _ => fun
      | .get _ => .ok none
      | .create _ => .ok ()
      | .delete _ => .ok true
    (∃ config, Config.ofEnvironment hasty = .ok config ∧
      config.kubernetes.pollInterval = .ofMillis 0 ∧
      config.kubernetes.readyTimeout = .ofSeconds 120 ∧
      ∀ patience, (Kubernetes.Timeline.mk [] 0).run missing
          ((Wait.forReady config.kubernetes "slot").start config.kubernetes patience) =
        (.givenUp, ⟨Kubernetes.polls missing "slot" 0 0 patience, 0⟩)) ∧
    ∃ config, Config.ofEnvironment endless = .ok config ∧
      config.kubernetes.readyTimeout = .ofSeconds 18446744073709551615 ∧
      ∀ now, ¬ Ticker.Reaches now config.kubernetes.readyTimeout := by
  intro hasty endless missing
  constructor
  · obtain ⟨config, accepted, cluster⟩ := accepted_of_told hasty Config.kubernetes
      { pollInterval := .ofMillis 0 } (by decide +kernel)
    have none : config.kubernetes.pollInterval = .ofMillis 0 := by rw [cluster]
    have minutes : config.kubernetes.readyTimeout = .ofSeconds 120 := by rw [cluster]
    refine ⟨config, accepted, none, minutes, fun patience => ?_⟩
    exact (Wait.forReady config.kubernetes "slot").spins (by rw [none]; rfl)
      (by rw [Wait.forReady, minutes]; decide) missing 0 patience
      (by rw [Wait.forReady, minutes]; decide) (fun _ => rfl)
  · obtain ⟨config, accepted, cluster⟩ := accepted_of_told endless Config.kubernetes
      { readyTimeout := .ofSeconds 18446744073709551615 } (by decide +kernel)
    refine ⟨config, accepted, by rw [cluster], fun now => ?_⟩
    rw [cluster, Ticker.reaches_seconds, Nat.not_le, Ticker.lastSecond]
    omega

end Settings

end WorkspacePool
