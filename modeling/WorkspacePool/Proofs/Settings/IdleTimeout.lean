import WorkspacePool.Proofs.Settings.Reading
import WorkspacePool.Proofs.Workflow.Retiring

/-!
Which idle timeouts the environment can set, and which of them are kept to. A timeout is any number
of seconds that fits 64 bits, but a scan compares the idle time with the low 64 bits of the
timeout's milliseconds. From 18446744073709552 seconds on, the milliseconds do not fit, and slots
are paused before their time.
-/

namespace WorkspacePool

namespace Settings

open Text.Decimal (digits)

variable {environment : Environment} {key : Key} {timeout : Span} {seconds : Nat}

/-! ### What the environment can set -/

theorem readSeconds_bounded {text : String} (read : Config.readSeconds text = some timeout) :
    ∃ seconds ≤ 18446744073709551615, timeout = Span.ofSeconds seconds := by
  obtain ⟨seconds, found, rfl⟩ := Option.map_eq_some_iff.mp read
  obtain ⟨-, bounded⟩ := Option.filter_eq_some_iff.mp found
  exact ⟨seconds, by simpa using bounded, rfl⟩

theorem idleTimeout_bounded : Yields (fun config : Config =>
    ∃ seconds ≤ 18446744073709551615, config.upkeep.idleTimeout = Span.ofSeconds seconds)
    (Config.ofEnvironment environment) := by
  refine .bind fun _ _ => .bind fun _ _ => .bind fun _ _ => .bind fun _ _ => .bind fun _ _ =>
    .bind fun _ _ => .bind fun _ _ => .bind fun _ _ => .bind fun idleTimeout found =>
    .bind fun _ _ => .bind fun _ _ => .bind fun _ _ => .bind fun _ _ => .bind fun _ _ =>
    .bind fun _ _ => .bind fun _ _ => .pure ?_
  rcases sets_read found (fun _ _ => readSeconds_bounded) (Span.ofMinutes 30) with
    ⟨_, _, bounded⟩ | ⟨_, unset⟩
  · exact bounded
  · exact ⟨1800, by decide, unset⟩

/-- The environment that sets the idle timeout and nothing else. -/
def Environment.ofIdleTimeout (seconds : Nat) : Environment
  | .idleTimeoutSecs => some (Text.utf8 (digits seconds))
  | _ => none

theorem trim_digits (value : Nat) :
    Text.trim (String.ofList (digits value)) = String.ofList (digits value) := by
  have kept {run : List Char} (all : ∀ character ∈ run, Text.Decimal.isDigit character = true) :
      Text.dropBlanks run = run := by
    cases run with
    | nil => rfl
    | cons first rest =>
        exact Text.dropBlanks_cons rest (Text.Decimal.isBlank_of_isDigit (all first (by simp)))
  have all := Text.Decimal.digits_all value
  rw [Text.trim, String.toList_ofList, kept all, kept (by simpa using all), List.reverse_reverse]

theorem read?_ofIdleTimeout (bounded : seconds ≤ 18446744073709551615) :
    (Environment.ofIdleTimeout seconds).read? .idleTimeoutSecs Config.readSeconds =
      .ok (some (Span.ofSeconds seconds)) := by
  have written : (Environment.ofIdleTimeout seconds).value? .idleTimeoutSecs =
      some (String.ofList (digits seconds)) := by
    have filled : String.ofList (digits seconds) ≠ "" := fun same =>
      Text.Decimal.digits_ne_nil seconds (by simpa using congrArg String.toList same)
    simp [Environment.value?, Environment.ofIdleTimeout, Text.fromUTF8?_utf8, trim_digits, filled]
  simp [Environment.read?, written, Config.readSeconds, Config.readWord64,
    Text.Decimal.readNat_digits bounded]

theorem read?_ofIdleTimeout_other {α : Type} {read : String → Option α}
    (other : key ≠ .idleTimeoutSecs) : (Environment.ofIdleTimeout seconds).read? key read = .ok none := by
  have unset : (Environment.ofIdleTimeout seconds).value? key = none := by
    cases key <;> first | rfl | exact absurd rfl other
  simp [Environment.read?, unset]

/-- The idle timeouts that can be configured are the numbers of seconds that fit 64 bits. -/
theorem accepted_idleTimeout_iff :
    (∃ environment config, Config.ofEnvironment environment = .ok config ∧
      config.upkeep.idleTimeout = timeout) ↔
      ∃ seconds ≤ 18446744073709551615, timeout = Span.ofSeconds seconds := by
  constructor
  · rintro ⟨environment, config, accepted, rfl⟩
    exact idleTimeout_bounded config accepted
  · rintro ⟨seconds, bounded, rfl⟩
    refine ⟨.ofIdleTimeout seconds, ?_⟩
    simp only [Config.ofEnvironment, read?_ofIdleTimeout bounded, read?_ofIdleTimeout_other, ne_eq,
        reduceCtorEq, not_false_eq_true, Config.positive]
    exact ⟨_, rfl, rfl⟩

end Settings

namespace Workflow

variable {timeout : Span} {pool : Pool} {row : Slot} {now : Millis}

theorem idle_of_listed (fits : timeout.millis < 18446744073709551616)
    (listed : row ∈ pool.idleRunning timeout now) :
    timeout.millis < now.toNat - row.lastActivity.toNat := by
  obtain ⟨-, -, -, idle⟩ := Pool.mem_idleRunning.mp listed
  rwa [Pool.word_lt_idleFor, Nat.mod_eq_of_lt fits] at idle

/-- One slot that has been idle since the clock read zero. -/
def oneIdle : Pool := (Pool.create 1 0 0).run [⟨0, 0, .claim ⟨1⟩ "project" "session"⟩]

theorem oneIdle_sound : oneIdle.Sound := (Pool.create_sound 1 0 0).run _

def lastReading : Millis := 18446744073709551615

/-- Every timeout of whole seconds has run out by the last reading: the low 64 bits of its
milliseconds make an even number. -/
theorem oneIdle_listed (whole : ∃ seconds, timeout = Span.ofSeconds seconds) :
    ∀ row ∈ oneIdle.slots, row ∈ oneIdle.idleRunning timeout lastReading := by
  obtain ⟨seconds, rfl⟩ := whole
  intro row member
  obtain ⟨busy, running, fresh⟩ :
      row.isBusy = true ∧ row.status = .running ∧ row.lastActivity = 0 := by
    revert row
    decide
  refine Pool.mem_idleRunning.mpr ⟨member, busy, running, Pool.word_lt_idleFor.mpr ?_⟩
  rw [fresh]
  change seconds * 1000 % 18446744073709551616 < 18446744073709551615 - 0
  omega

/-- The clock stands still, and every collaborator does as it is asked. -/
def Surroundings.obliging (clock : Millis) : Surroundings :=
  .still clock fun _ call =>
    match call with
    | .publish _ => .ok ()
    | .assign _ _ => .ok ()
    | .release _ _ => .ok ()
    | .lookUpToken _ => .ok ""

/-- A timeout that can be configured is kept to exactly when its milliseconds fit 64 bits. Then and
only then do scans list, and do passes without other callers pause, no slot that has not been idle
for longer than the whole of it, and no slot that a shorter timeout spares. -/
theorem timeout_kept_iff_fits (timeout : Span)
    (accepted : ∃ environment config, Settings.Config.ofEnvironment environment = .ok config ∧
      config.upkeep.idleTimeout = timeout) :
    (timeout.millis < 18446744073709551616 ↔
      ∀ pool : Pool, pool.Sound → ∀ now, ∀ row ∈ pool.idleRunning timeout now,
        timeout.millis < now.toNat - row.lastActivity.toNat) ∧
    (timeout.millis < 18446744073709551616 ↔
      ∀ (around : Surroundings) (scene : Scene), scene.pool.Sound → ∀ row ∈ scene.pool.slots,
        row.id ∈ (scene.run around (pauseIdleSlots timeout)).1 →
        timeout.millis < (around.reading scene.moment).toNat - row.lastActivity.toNat) ∧
    (timeout.millis < 18446744073709551616 ↔
      ∀ shorter : Span, shorter.millis ≤ timeout.millis → ∀ pool : Pool, pool.Sound → ∀ now,
        ∀ row ∈ pool.idleRunning timeout now, row ∈ pool.idleRunning shorter now) := by
  obtain ⟨seconds, -, whole⟩ := Settings.accepted_idleTimeout_iff.mp accepted
  have listed := oneIdle_listed ⟨seconds, whole⟩
  obtain ⟨row, member, fresh⟩ : ∃ row ∈ oneIdle.slots, row.lastActivity = 0 := by decide
  have idle : lastReading.toNat - row.lastActivity.toNat = 18446744073709551615 := by
    rw [fresh]
    rfl
  refine ⟨⟨?_, ?_⟩, ⟨?_, ?_⟩, ⟨?_, ?_⟩⟩
  · intro fits pool _ now row found
    exact idle_of_listed fits found
  · intro kept
    have exceeded := kept oneIdle oneIdle_sound lastReading row (listed row member)
    omega
  · intro fits around scene sound row there paused
    have pass : Attains around _ _ scene := pauseIdleSlots_retires sound timeout
    rw [pass.1] at paused
    obtain ⟨other, found, same⟩ := List.mem_map.mp paused
    obtain ⟨otherThere, -⟩ := Pool.mem_idleRunning.mp found
    obtain rfl := sound.same_row otherThere there same
    exact idle_of_listed fits found
  · intro kept
    let around := Surroundings.obliging lastReading
    let scene : Scene := ⟨oneIdle, [], 0⟩
    have pass : Attains around _ _ scene := pauseIdleSlots_retires oneIdle_sound timeout
    have paused : row.id ∈ (scene.run around (pauseIdleSlots timeout)).1 := by
      rw [pass.1]
      exact List.mem_map_of_mem (listed row member)
    have exceeded := kept around scene oneIdle_sound row member paused
    change timeout.millis < lastReading.toNat - row.lastActivity.toNat at exceeded
    omega
  · intro fits shorter ordered pool _ now row found
    refine Pool.idleRunning_subset (UInt64.le_iff_toNat_le.mpr ?_) found
    rw [Span.word, Span.word, UInt64.toNat_ofNat', UInt64.toNat_ofNat', Nat.mod_eq_of_lt fits,
      Nat.mod_eq_of_lt (Nat.lt_of_le_of_lt ordered fits)]
    exact ordered
  · intro spares
    by_contra large
    -- The longest timeout that fits spares a slot which this one does not.
    have longest : (Span.ofMillis 18446744073709551615).millis ≤ timeout.millis := by
      change 18446744073709551615 ≤ timeout.millis
      omega
    have found := spares _ longest oneIdle oneIdle_sound lastReading row (listed row member)
    obtain ⟨-, -, -, exceeded⟩ := Pool.mem_idleRunning.mp found
    rw [Pool.word_lt_idleFor, idle] at exceeded
    exact absurd exceeded (by decide)

/-- A timeout of one hour can be configured, and fits. -/
theorem hour_is_kept :
    (∃ environment config, Settings.Config.ofEnvironment environment = .ok config ∧
      config.upkeep.idleTimeout = Span.ofSeconds 3600) ∧
    ∀ pool : Pool, pool.Sound → ∀ now, ∀ row ∈ pool.idleRunning (Span.ofSeconds 3600) now,
      3600000 < now.toNat - row.lastActivity.toNat := by
  have accepted := Settings.accepted_idleTimeout_iff.mpr ⟨3600, by decide, rfl⟩
  exact ⟨accepted, (timeout_kept_iff_fits _ accepted).1.mp (by decide)⟩

/-- A timeout of some 584 million years is accepted and counts as 384 milliseconds. A slot that has
been idle for one second is listed and paused, though a timeout of one hour spares it. -/
theorem long_timeout_pauses_early :
    let environment := Settings.Environment.ofList
      [("BERTH_IDLE_TIMEOUT_SECS", "18446744073709552".toUTF8.data.toList)]
    let timeout := Span.ofSeconds 18446744073709552
    (Settings.Config.ofEnvironment environment).toOption.map (·.upkeep.idleTimeout) =
        some timeout ∧
      (oneIdle.idleRunning timeout 1000).map (·.idleFor 1000) = [1000] ∧
      1000 < timeout.millis ∧
      (Scene.run (.obliging 1000) ⟨oneIdle, [], 0⟩ (pauseIdleSlots timeout)).1 = [⟨1⟩] ∧
      oneIdle.idleRunning (Span.ofSeconds 3600) 1000 = [] := by
  decide +kernel

end Workflow

end WorkspacePool
