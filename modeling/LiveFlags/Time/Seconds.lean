import LiveFlags.Decimal.Binary
import LiveFlags.Time.Duration

/-!
# Lengths of time as doubles

A duration in seconds is the sum of its whole seconds and the fraction of a second after them, each
rounded to a double (`Duration.toSeconds`). A double stands for the duration of the nearest whole
number of nanoseconds, an exact half for the even one (`Duration.ofSeconds?`). It stands for none if it
is negative or no finite number, or if no duration is that long. A duration is multiplied by a double
in seconds (`Duration.times?`).
-/
namespace LiveFlags

/-- The whole number nearest to a quotient; an exact half goes to the even neighbour. -/
def roundQuotient (numerator denominator : Nat) : Nat :=
  let quotient := numerator / denominator
  let twice := 2 * (numerator % denominator)
  if twice < denominator ∨ (twice = denominator ∧ quotient % 2 = 0) then quotient else quotient + 1

/-- The nanoseconds nearest to so many seconds, whatever their sign. -/
def BinaryParts.nanos (seconds : BinaryParts) : Nat :=
  roundQuotient (seconds.mantissa * Nat.pow 2 seconds.exponent.toNat * 1000000000)
    (Nat.pow 2 (-seconds.exponent).toNat)

namespace Duration

/-- The seconds of a duration. -/
def toSeconds (duration : Duration) : Float :=
  (UInt64.ofNat duration.seconds).toFloat + (UInt32.ofNat duration.subsecondNanos).toFloat / 1000000000.0

/-- The duration of so many seconds, if it is one. -/
def ofSeconds? (seconds : Float) : Option Duration :=
  if seconds < 0.0 then none
  else (BinaryParts.ofFloat? seconds).bind fun parts => ofNanos? parts.nanos

/-- The duration times a factor, if it is one. -/
def times? (duration : Duration) (factor : Float) : Option Duration :=
  ofSeconds? (factor * duration.toSeconds)

/-- The longer of two durations. -/
def longer (left right : Duration) : Duration := if left ≤ right then right else left

/-- The longer of two durations has the greater number of nanoseconds. -/
@[simp] theorem nanos_longer (left right : Duration) :
    (left.longer right).nanos = max left.nanos right.nanos := by
  unfold longer
  split
  · rename_i le
    exact (Nat.max_eq_right le).symm
  · rename_i less
    exact (Nat.max_eq_left (Nat.le_of_not_le less)).symm

end Duration

end LiveFlags
