import WorkspacePool.Slot
import WorkspacePool.Span

/-!
A clock that is set by hand. It counts in one 64-bit word, so it wraps around at the end.
-/

namespace WorkspacePool

structure ManualClock where
  now : Millis
deriving DecidableEq, Repr

namespace ManualClock

/-- The reading a new clock starts from, the first instant of 2026. -/
def start : Millis := 1767225600000

instance : Inhabited ManualClock := ⟨⟨start⟩⟩

/-- Move on by a length of time. -/
def advance (clock : ManualClock) (span : Span) : ManualClock := ⟨clock.now + span.word⟩

def set (_ : ManualClock) (now : Millis) : ManualClock := ⟨now⟩

end ManualClock

end WorkspacePool
