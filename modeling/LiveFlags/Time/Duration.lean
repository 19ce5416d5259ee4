/-!
# Lengths of time and instants

A duration is a whole number of nanoseconds whose seconds fit an unsigned word of 64 bits. An instant
is the number of nanoseconds since a fixed start of the monotonic clock; the clock can name instants
whose seconds fit a signed word of 64 bits, so adding a duration to an instant may fail
(`Instant.after?`). A timer that cannot be set for an instant beyond that range is set for a day
about thirty years ahead instead (`Instant.timer`).
-/
namespace LiveFlags

/-- A length of time. -/
structure Duration where
  /-- The nanoseconds. -/
  nanos : Nat
  /-- The whole seconds fit 64 bits. -/
  fits : nanos < 18446744073709551616000000000
  deriving DecidableEq, Repr

namespace Duration

/-- Durations of equally many nanoseconds are equal. -/
@[ext] theorem ext {left right : Duration} (h : left.nanos = right.nanos) : left = right := by
  cases left; cases right; simp_all

/-- No time at all. -/
def zero : Duration := ⟨0, by decide⟩

instance : Inhabited Duration := ⟨zero⟩

instance : LT Duration := ⟨fun left right => left.nanos < right.nanos⟩

instance : LE Duration := ⟨fun left right => left.nanos ≤ right.nanos⟩

instance (left right : Duration) : Decidable (left < right) := Nat.decLt _ _

instance (left right : Duration) : Decidable (left ≤ right) := Nat.decLe _ _

/-- The duration of so many nanoseconds, if it is one. -/
def ofNanos? (nanos : Nat) : Option Duration :=
  if h : nanos < 18446744073709551616000000000 then some ⟨nanos, h⟩ else none

/-- The duration of so many nanoseconds, or the longest one. -/
def ofNanosClamped (nanos : Nat) : Duration :=
  ⟨min nanos (18446744073709551616000000000 - 1), by omega⟩

/-- The duration of so many milliseconds. -/
def ofMillis (millis : UInt64) : Duration :=
  ⟨millis.toNat * 1000000, by have := millis.toNat_lt; omega⟩

/-- The duration of so many seconds and nanoseconds, if it is one. -/
def ofParts? (seconds : UInt64) (nanos : UInt32) : Option Duration :=
  ofNanos? (seconds.toNat * 1000000000 + nanos.toNat)

/-- The whole seconds. -/
def seconds (duration : Duration) : Nat := duration.nanos / 1000000000

/-- The nanoseconds beyond the whole seconds. -/
def subsecondNanos (duration : Duration) : Nat := duration.nanos % 1000000000

/-- The whole milliseconds. -/
def millis (duration : Duration) : Nat := duration.nanos / 1000000

/-- The whole milliseconds, modulo `2 ^ 64`. -/
def millisWord (duration : Duration) : UInt64 := UInt64.ofNat duration.millis

/-- No time passes. -/
def isZero (duration : Duration) : Bool := duration.nanos = 0

end Duration

/-- Nanoseconds since the start of the monotonic clock. -/
abbrev Instant := Nat

namespace Instant

/-- The first instant that the clock cannot name. -/
def limit : Instant := 9223372036854775808000000000

/-- The instant a duration after another, if the clock can name it. -/
def after? (start : Instant) (duration : Duration) : Option Instant :=
  if start + duration.nanos < limit then some (start + duration.nanos) else none

/-- How far ahead a timer is set when its instant cannot be named: thirty years of 365 days. -/
def farAhead : Nat := 86400 * 365 * 30 * 1000000000

/-- The instant at which a timer for the duration runs out. -/
def timer (start : Instant) (duration : Duration) : Instant :=
  (start.after? duration).getD (start + farAhead)

/-- The time from one instant to a later one. -/
def elapsed (start finish : Instant) : Duration :=
  Duration.ofNanosClamped (finish - start)

end Instant

end LiveFlags
