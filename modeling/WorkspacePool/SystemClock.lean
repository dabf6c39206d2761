import Std.Time.DateTime.Timestamp
import WorkspacePool.Slot

/-!
The machine's own clock.
-/

namespace WorkspacePool

/-- Milliseconds since the epoch. A clock set to a time before the epoch reads zero. -/
def readSystemClock : IO Millis := do
  let now ← Std.Time.Timestamp.now
  return UInt64.ofNat now.toMillisecondsSinceUnixEpoch.val.toNat

end WorkspacePool
