import WorkspacePool.Span

/-!
Tickers: a tick comes due once every period, the first one a period after the start. A tick that
comes due while the last one is still worked off is not lost: it is ready as soon as the work is
done, and the next tick after it is the next multiple of the period.
-/

namespace WorkspacePool.Workflow

/-- Moments are milliseconds since the start of the program. -/
structure Ticker where
  deadline : Nat
  period : Nat
deriving DecidableEq, Repr

namespace Ticker

/-- The latest second that a deadline can be told in. -/
def lastSecond : Nat := 9223372036854775807

/-- A length of time from a moment on ends at a moment that can be told. -/
def Reaches (now : Nat) (span : Span) : Prop :=
  (now + span.millis) / 1000 ≤ lastSecond

instance {now : Nat} {span : Span} : Decidable (Reaches now span) :=
  inferInstanceAs (Decidable (_ ≤ _))

theorem Reaches.earlier {now later : Nat} {span : Span} (sooner : now ≤ later)
    (reaches : Reaches later span) : Reaches now span :=
  Nat.le_trans (Nat.div_le_div_right (Nat.add_le_add_right sooner _)) reaches

theorem reaches_seconds (now seconds : Nat) :
    Reaches now (Span.ofSeconds seconds) ↔ now / 1000 + seconds ≤ lastSecond := by
  rw [Reaches, Span.ofSeconds, Nat.add_mul_div_right _ _ (by decide)]

/-- There is no ticker without a period, and none whose first deadline cannot be told. -/
def start? (now : Nat) (period : Span) : Option Ticker :=
  if 0 < period.millis ∧ Reaches now period then some ⟨now + period.millis, period.millis⟩
  else none

/-- The tick that is due next is ready. -/
def isReady (ticker : Ticker) (now : Nat) : Bool :=
  ticker.deadline ≤ now

/-- How late a tick may be, in milliseconds, and still count as in time. -/
def tolerance : Nat := 5

/-- Take the tick that is ready. In time, the next one follows a period after its deadline; late,
it follows at the first multiple of the period behind the present. -/
def take (ticker : Ticker) (now : Nat) : Ticker :=
  if ticker.deadline + tolerance < now then
    { ticker with deadline := now + ticker.period - (now - ticker.deadline) % ticker.period }
  else { ticker with deadline := ticker.deadline + ticker.period }

end Ticker

/-- What a loop may do next. -/
inductive LoopChoice where
  | stop
  | pass
deriving DecidableEq, Repr

/-- What a loop between two passes may do: begin a pass once a tick is ready, and stop once it is
cancelled. When both are open, either may be taken. -/
def loopChoices (cancelled : Bool) (ticker : Ticker) (now : Nat) : List LoopChoice :=
  (if ticker.isReady now then [.pass] else []) ++ (if cancelled then [.stop] else [])

/-- What a loop does out of what it may do. When both are open, that is what is tossed. -/
def chosen? (tossed : LoopChoice) (choices : List LoopChoice) : Option LoopChoice :=
  if tossed ∈ choices then some tossed else choices.head?

end WorkspacePool.Workflow
