import WorkspacePool.Proofs.Text.Numerals
import WorkspacePool.Proofs.Text.Trimming
import WorkspacePool.Proofs.Text.Utf8
import WorkspacePool.Settings.Config

/-!
What single variables of an environment are read as. A variable is present with what trimming leaves
of its text. Every variable has a kind of values it may be set to, and is to blame for a fault when
it is present with another value, or with a zero where zero is refused.
-/

namespace WorkspacePool.Settings

open Text.Decimal (WritesNatural WritesInteger)

variable {environment : Environment} {key : Key} {value : String} {fault : Fault} {α : Type}

/-- A variable is present with a value when it is set to a text, and trimming leaves the value of it,
which is not empty. -/
def Environment.Present (environment : Environment) (key : Key) (value : String) : Prop :=
  ∃ text, environment key = some (Text.utf8 text) ∧ Text.Trims text value.toList ∧ value ≠ ""

theorem value?_eq_some_iff :
    environment.value? key = some value ↔ environment.Present key value := by
  have trimmed {text : List Char} : Text.trim (String.ofList text) = value ↔
      Text.Trims text value.toList := by
    rw [Text.trim_eq_iff, String.toList_ofList]
  simp only [Environment.value?, Option.bind_eq_bind, Option.bind_eq_some_iff,
    Text.fromUTF8?_eq_some_iff, beq_iff_eq]
  constructor
  · rintro ⟨_, bytes, text, rfl, found⟩
    split at found
    · contradiction
    · next filled =>
        obtain rfl := Option.some.inj found
        exact ⟨text.toList, bytes, Text.trim_eq_iff.mp rfl, filled⟩
  · rintro ⟨text, bytes, trims, filled⟩
    obtain rfl := trimmed.mpr trims
    exact ⟨_, bytes, String.ofList text, by rw [String.toList_ofList], if_neg filled⟩

theorem value?_eq_none_iff :
    environment.value? key = none ↔ ∀ value, ¬ environment.Present key value := by
  simp only [← value?_eq_some_iff, Option.eq_none_iff_forall_ne_some, ne_eq]

theorem Environment.Present.unique {other : String} (present : environment.Present key value)
    (too : environment.Present key other) : value = other :=
  Option.some.inj ((value?_eq_some_iff.mpr present).symm.trans (value?_eq_some_iff.mpr too))

theorem value?_congr {other : Environment}
    (same : ∀ value, environment.Present key value ↔ other.Present key value) :
    environment.value? key = other.value? key := by
  apply Option.ext
  intro value
  rw [value?_eq_some_iff, value?_eq_some_iff, same value]

/-! ### Kinds of values -/

/-- What a variable may be set to. -/
inductive Kind where
  | text
  /-- A number that fits a bound. Where zero is refused, it may be written but not meant. -/
  | natural (bound : Nat) (refusesZero : Bool)
  | integer (low high : Int)
  /-- One of some names, whatever the case of their letters. -/
  | oneOf (names : List String)
deriving DecidableEq

namespace Kind

def Admits : Kind → String → Prop
  | .text, _ => True
  | .natural bound _, value => ∃ number, WritesNatural value number ∧ number ≤ bound
  | .integer low high, value => ∃ number, WritesInteger value number ∧ low ≤ number ∧ number ≤ high
  | .oneOf names, value => lowercase value ∈ names

def Refuses : Kind → String → Prop
  | .natural _ true, value => WritesNatural value 0
  | _, _ => False

end Kind

/-- The kind of a variable's values. -/
def Key.kind : Key → Kind
  | .slotCount => .natural 4294967295 true
  | .queueSize => .natural 18446744073709551615 true
  | .pauseIntervalSecs | .queueIntervalSecs => .natural 18446744073709551615 true
  | .readyTimeoutSecs | .readyPollMs | .idleTimeoutSecs | .connectTimeoutMs =>
      .natural 18446744073709551615 false
  | .terminalPort | .previewPort => .integer (-2147483648) 2147483647
  | .backend => .oneOf ["kubernetes", "k8s", "docker"]
  | .logFormat => .oneOf ["text", "pretty", "json"]
  | .amqpUrl | .workspaceBrokerUrl | .requestQueue | .k8sNamespace | .slotImage | .slotPrefix
  | .tokenUrl => .text

/-- A variable is to blame for a fault. -/
inductive Blamed (environment : Environment) (key : Key) : Fault → Prop
  | invalid (value : String) (present : environment.Present key value)
      (unfit : ¬ key.kind.Admits value) : Blamed environment key (.invalid key value)
  | zero (value : String) (present : environment.Present key value)
      (fit : key.kind.Admits value) (refused : key.kind.Refuses value) :
      Blamed environment key (.zero key)

theorem not_blamed_of_absent (absent : ∀ value, ¬ environment.Present key value) :
    ¬ Blamed environment key fault := by
  rintro (⟨value, present, -⟩ | ⟨value, present, -, -⟩) <;> exact absent value present

theorem blamed_iff_of_present (present : environment.Present key value) :
    Blamed environment key fault ↔
      fault = .invalid key value ∧ ¬ key.kind.Admits value ∨
      fault = .zero key ∧ key.kind.Admits value ∧ key.kind.Refuses value := by
  constructor
  · rintro (⟨other, too, unfit⟩ | ⟨other, too, fit, refused⟩)
    · obtain rfl := present.unique too
      exact .inl ⟨rfl, unfit⟩
    · obtain rfl := present.unique too
      exact .inr ⟨rfl, fit, refused⟩
  · rintro (⟨rfl, unfit⟩ | ⟨rfl, fit, refused⟩)
    · exact .invalid value present unfit
    · exact .zero value present fit refused

/-! ### Reading one variable -/

section Variables

variable {read : String → Option α} {isZero : α → Bool} {result : Option α}

theorem read?_of_absent (absent : ∀ value, ¬ environment.Present key value) :
    environment.read? key read = .ok none := by
  rw [Environment.read?, value?_eq_none_iff.mpr absent]

theorem read?_of_read {found : α} (present : environment.Present key value)
    (reads : read value = some found) : environment.read? key read = .ok (some found) := by
  rw [Environment.read?, value?_eq_some_iff.mpr present]
  simp only [reads]

theorem read?_of_unread (present : environment.Present key value) (unread : read value = none) :
    environment.read? key read = .error (.invalid key value) := by
  rw [Environment.read?, value?_eq_some_iff.mpr present]
  simp only [unread]

/-- A variable is absent, or present with a value that is read or not. -/
theorem read?_cases (environment : Environment) (key : Key) (read : String → Option α) :
    (∀ value, ¬ environment.Present key value) ∨
    (∃ value found, environment.Present key value ∧ read value = some found) ∨
    ∃ value, environment.Present key value ∧ read value = none := by
  cases set : environment.value? key with
  | none => exact .inl (value?_eq_none_iff.mp set)
  | some value =>
      have present := value?_eq_some_iff.mp set
      cases reads : read value with
      | none => exact .inr (.inr ⟨value, present, reads⟩)
      | some found => exact .inr (.inl ⟨value, found, present, reads⟩)

/-- A reader reads the values that a kind admits, and no others. -/
def Kind.ReadBy (kind : Kind) (read : String → Option α) : Prop :=
  ∀ value, kind.Admits value ↔ (read value).isSome = true

/-- A variable whose zero is not refused is read with the faults that it is to blame for. -/
theorem read?_blames (fits : key.kind.ReadBy read) (spares : ∀ value, ¬ key.kind.Refuses value)
    (fault : Fault) :
    environment.read? key read = .error fault ↔ Blamed environment key fault := by
  rcases read?_cases environment key read with
    absent | ⟨value, found, present, reads⟩ | ⟨value, present, unread⟩
  · simp [read?_of_absent absent, not_blamed_of_absent absent]
  · simp [read?_of_read present reads, blamed_iff_of_present present, fits value, reads, spares]
  · simp [read?_of_unread present unread, blamed_iff_of_present present, fits value, unread,
      @eq_comm _ fault]

/-- A number that may not be zero is read and checked with the faults that its variable is to blame
for. -/
theorem positive_blames (fits : key.kind.ReadBy read)
    (zero : ∀ value found, read value = some found →
      (key.kind.Refuses value ↔ isZero found = true)) (fault : Fault) :
    (environment.read? key read >>= Config.positive key isZero) = .error fault ↔
      Blamed environment key fault := by
  rcases read?_cases environment key read with
    absent | ⟨value, found, present, reads⟩ | ⟨value, present, unread⟩
  · rw [read?_of_absent absent]
    simp [not_blamed_of_absent absent, Bind.bind, Except.bind, Config.positive]
  · rw [read?_of_read present reads, blamed_iff_of_present present, fits value, reads,
      zero value found reads]
    cases zeroed : isZero found <;>
      simp [Bind.bind, Except.bind, Config.positive, zeroed, @eq_comm _ fault]
  · rw [read?_of_unread present unread, blamed_iff_of_present present, fits value, unread]
    simp [Bind.bind, Except.bind, @eq_comm _ fault]

theorem positive_eq_ok {checked : Option α}
    (passed : Config.positive key isZero result = .ok checked) :
    checked = result ∧ ∀ found ∈ result, isZero found = false := by
  unfold Config.positive at passed
  split at passed
  · contradiction
  · next sound =>
      refine ⟨(Except.ok.inj passed).symm, fun found member => ?_⟩
      rw [Option.mem_def.mp member] at sound
      simpa using sound

/-! ### Readings of several variables -/

/-- What holds of the result, provided that there is one. -/
def Yields {α : Type} (goal : α → Prop) (outcome : Except Fault α) : Prop :=
  ∀ result, outcome = .ok result → goal result

theorem Yields.bind {α β : Type} {goal : β → Prop} {outcome : Except Fault α}
    {next : α → Except Fault β}
    (yields : ∀ result, outcome = .ok result → Yields goal (next result)) :
    Yields goal (outcome >>= next) := by
  intro last ended
  cases outcome with
  | error fault => cases ended
  | ok result => exact yields result rfl last ended

theorem Yields.pure {α : Type} {goal : α → Prop} {result : α} (reached : goal result) :
    Yields goal (Pure.pure result) := by
  rintro _ ⟨⟩
  exact reached

/-! ### Settings -/

/-- A setting is what its variable means if it is present, and else a default. -/
def Environment.Sets (environment : Environment) (key : Key) (means : String → α → Prop)
    (default setting : α) : Prop :=
  (∃ value, environment.Present key value ∧ means value setting) ∨
    (∀ value, ¬ environment.Present key value) ∧ setting = default

theorem sets_value (environment : Environment) (key : Key) (default : String) :
    environment.Sets key Eq default ((environment.value? key).getD default) := by
  cases set : environment.value? key with
  | none => exact .inr ⟨value?_eq_none_iff.mp set, rfl⟩
  | some value => exact .inl ⟨value, value?_eq_some_iff.mp set, rfl⟩

theorem sets_read {means : String → α → Prop} (found : environment.read? key read = .ok result)
    (meant : ∀ value setting, read value = some setting → means value setting) (default : α) :
    environment.Sets key means default (result.getD default) := by
  rcases read?_cases environment key read with
    absent | ⟨value, setting, present, reads⟩ | ⟨value, present, unread⟩
  · rw [read?_of_absent absent] at found
    obtain rfl := Except.ok.inj found
    exact .inr ⟨absent, rfl⟩
  · rw [read?_of_read present reads] at found
    obtain rfl := Except.ok.inj found
    exact .inl ⟨value, present, meant value setting reads⟩
  · rw [read?_of_unread present unread] at found
    contradiction

theorem read?_congr {other : Environment}
    (same : ∀ value, environment.Present key value ↔ other.Present key value)
    (read : String → Option α) : environment.read? key read = other.read? key read := by
  rw [Environment.read?, Environment.read?, value?_congr same]

end Variables

end WorkspacePool.Settings
