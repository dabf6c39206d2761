import WorkspacePool.Calendar.Date
import WorkspacePool.Slot

/-!
Instants of universal time with nanoseconds. A leap second is told by nanoseconds beyond one
second, so that it shares the second of the day with the second before it.
-/

namespace WorkspacePool.Calendar

structure Timestamp where
  date : Date
  /-- Seconds since midnight. -/
  second : Nat
  /-- Nanoseconds since the second began, two seconds' worth at a leap second. -/
  nanos : Nat
deriving DecidableEq, Repr, Inhabited

namespace Timestamp

def epoch : Timestamp := ⟨Date.epoch, 0, 0⟩

/-- The instant that a clock's reading stands for. The word is read as a signed count of
milliseconds; a reading outside the calendar is the epoch. -/
def ofClock (reading : Millis) : Timestamp :=
  let millis := reading.toInt64.toInt
  let seconds := millis.fdiv 1000
  let days := seconds.fdiv 86400
  let date := Date.ofEpochDays days
  if date.isValid then
    ⟨date, (seconds - days * 86400).toNat, (millis - seconds * 1000).toNat * 1000000⟩
  else epoch

/-- Whole milliseconds from the epoch to an instant. -/
def epochMillis (timestamp : Timestamp) : Int :=
  (timestamp.date.epochDays * 86400 + timestamp.second) * 1000 + timestamp.nanos / 1000000

end Timestamp

end WorkspacePool.Calendar
