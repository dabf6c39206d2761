/-!
Lengths of time in whole milliseconds.
-/

namespace WorkspacePool

/-- A length of time, counted in whole milliseconds. -/
structure Span where
  millis : Nat
deriving DecidableEq, Repr, Inhabited

namespace Span

def ofMillis (millis : Nat) : Span := ⟨millis⟩

def ofSeconds (seconds : Nat) : Span := ⟨seconds * 1000⟩

def ofMinutes (minutes : Nat) : Span := ofSeconds (minutes * 60)

/-- Microseconds are cut to the whole milliseconds they fill. -/
def ofMicros (micros : Nat) : Span := ⟨micros / 1000⟩

/-- The whole seconds of a length of time. -/
def seconds (span : Span) : Nat := span.millis / 1000

/-- The milliseconds beyond the whole seconds. -/
def restMillis (span : Span) : Nat := span.millis % 1000

/-- The low 64 bits of the count of milliseconds. -/
def word (span : Span) : UInt64 := UInt64.ofNat span.millis

/-- At most three digits behind the point, those that are exact and no more. -/
private def fraction (millis : Nat) : String :=
  if millis % 100 == 0 then toString (millis / 100)
  else if millis % 10 == 0 then (if millis < 100 then "0" else "") ++ toString (millis / 10)
  else (if millis < 10 then "00" else if millis < 100 then "0" else "") ++ toString millis

/-- A length of time with its largest fitting unit: seconds with a decimal fraction, milliseconds
below one second, and nothing at all as zero nanoseconds. -/
def text (span : Span) : String :=
  if span.millis == 0 then "0ns"
  else if span.millis < 1000 then toString span.millis ++ "ms"
  else if span.restMillis == 0 then toString span.seconds ++ "s"
  else toString span.seconds ++ "." ++ fraction span.restMillis ++ "s"

example : (ofMillis 1010).text = "1.01s" := by decide

end Span

end WorkspacePool
