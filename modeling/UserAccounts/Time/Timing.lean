import UserAccounts.Time.Span
import UserAccounts.Time.Timestamp

/-!
# Timings

When a piece of work began and ended by the wall clock, and how long it took by the monotonic one.
-/

namespace UserAccounts

/-- The time that a piece of work took. -/
structure Timing where
  start : Timestamp
  stop : Timestamp
  elapsed : Span
  deriving DecidableEq

/-- The time taken, in whole milliseconds. -/
def Timing.elapsedMillis (t : Timing) : Nat :=
  t.elapsed.wholeMillis

end UserAccounts
