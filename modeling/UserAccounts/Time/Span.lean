import UserAccounts.Text.Numeral

/-!
# Spans of time

Lengths of time in nanoseconds, and their measure in whole milliseconds: `Span.wholeMillis` cuts a
fraction off, `Span.rounded` rounds to the nearest millisecond, half of one upwards. Counts of
milliseconds stay within an unsigned number of 64 bits.
-/

namespace UserAccounts

/-- A length of time. -/
structure Span where
  nanos : Nat
  deriving DecidableEq

namespace Span

/-- Nanoseconds in a microsecond. -/
def microsecond : Nat := 1000

/-- Nanoseconds in a millisecond. -/
def millisecond : Nat := 1000000

/-- Nanoseconds in a second. -/
def second : Nat := 1000000000

/-- Seconds and nanoseconds together. -/
def ofParts (seconds nanos : Nat) : Span :=
  ⟨seconds * second + nanos⟩

/-- A number of milliseconds. -/
def ofMillis (millis : Nat) : Span :=
  ⟨millis * millisecond⟩

/-- A number of microseconds. -/
def ofMicros (micros : Nat) : Span :=
  ⟨micros * microsecond⟩

/-- The whole seconds. -/
def seconds (d : Span) : Nat :=
  d.nanos / second

/-- The nanoseconds beyond the whole seconds. -/
def subsecondNanos (d : Span) : Nat :=
  d.nanos % second

/-- The whole microseconds. -/
def wholeMicros (d : Span) : Nat :=
  d.nanos / microsecond

/-- The whole milliseconds, at most the largest unsigned number of 64 bits. -/
def wholeMillis (d : Span) : Nat :=
  min (d.nanos / millisecond) Text.maxUnsigned64

/-- The span to the nearest millisecond, reckoned from its whole microseconds. -/
def rounded (d : Span) : Span :=
  ofMillis (min ((d.wholeMicros + 500) / 1000) Text.maxUnsigned64)

theorem nanos_ofMillis (millis : Nat) : (ofMillis millis).nanos = millis * millisecond := rfl

end Span

/-- A point of the monotonic clock, in nanoseconds since it was started. -/
structure Instant where
  nanos : Nat
  deriving DecidableEq

namespace Instant

/-- The point a span later. -/
def after (t : Instant) (d : Span) : Instant :=
  ⟨t.nanos + d.nanos⟩

/-- The span from an earlier point to this one. -/
def since (t earlier : Instant) : Span :=
  ⟨t.nanos - earlier.nanos⟩

instance : LE Instant := ⟨fun a b => a.nanos ≤ b.nanos⟩
instance : LT Instant := ⟨fun a b => a.nanos < b.nanos⟩
instance (a b : Instant) : Decidable (a ≤ b) := Nat.decLe a.nanos b.nanos
instance (a b : Instant) : Decidable (a < b) := Nat.decLt a.nanos b.nanos

theorem le_def {a b : Instant} : a ≤ b ↔ a.nanos ≤ b.nanos := Iff.rfl
theorem lt_def {a b : Instant} : a < b ↔ a.nanos < b.nanos := Iff.rfl

end Instant

/-- The moment by which a call has to be answered, if there is one. -/
structure Deadline where
  at? : Option Instant
  deriving DecidableEq

namespace Deadline

/-- No limit. -/
def none : Deadline := ⟨.none⟩

/-- A span from now. -/
def after (now : Instant) (d : Span) : Deadline := ⟨some (now.after d)⟩

/-- Whether the moment has come. -/
def isExpired (d : Deadline) (now : Instant) : Bool :=
  match d.at? with
  | .none => false
  | some limit => limit ≤ now

/-- Where waiting until `ready` ends, and whether it was ready by then: work that is ready at the
very moment of the deadline still counts, and a deadline that is already past ends the wait at
once. -/
def await (d : Deadline) (now ready : Instant) : Instant × Bool :=
  match d.at? with
  | .none => (ready, true)
  | some limit =>
    if ready ≤ now then (now, true)
    else if ready ≤ limit then (ready, true)
    else if limit ≤ now then (now, false)
    else (limit, false)

end Deadline

end UserAccounts
