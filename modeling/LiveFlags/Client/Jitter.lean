import LiveFlags.Time.Seconds

/-!
# The wait between two polls

Each wait is the interval of polls times `1 + j · (2 u - 1)`, where `j` is the spread and `u` a draw
from zero to below one. The factor and the product are computed in doubles. No wait that is spread is
shorter than a millisecond. There is no wait if the product is no duration.
-/
namespace LiveFlags

/-- A double from zero to below one. -/
structure Draw where
  /-- The double. -/
  value : Float
  /-- The double is not negative. -/
  atLeast : 0.0 ≤ value
  /-- The double lies below one. -/
  below : value < 1.0
  deriving DecidableEq, Repr

namespace Draw

/-- The draw in the middle. -/
def half : Draw := ⟨0.5, by decide +kernel, by decide +kernel⟩

instance : Inhabited Draw := ⟨half⟩

end Draw

/-- The factor `1 + j · (2 u - 1)` for a spread `j` and a draw `u`. -/
def spreadFactor (jitter : Float) (draw : Draw) : Float := 1.0 + jitter * (draw.value * 2.0 - 1.0)

/-- The shortest wait that is spread. -/
def shortestSpreadNanos : Nat := 1000000

/-- The interval itself if it is not to be spread, otherwise the product given, but no less than the
shortest wait. -/
def spreadWait (interval : Duration) (jitter : Float) (product : Option Duration) : Option Duration :=
  if jitter ≤ 0.0 then some interval
  else product.map (·.longer ⟨shortestSpreadNanos, by decide⟩)

/-- The wait for one draw; none where there is no such wait. -/
def jittered (interval : Duration) (jitter : Float) (draw : Draw) : Option Duration :=
  spreadWait interval jitter (interval.times? (spreadFactor jitter draw))

/-- Whether the time between two polls keeps to a spread of the interval, up to a slack. -/
def gapKeepsSpread (interval : Duration) (jitter : Float) (slack gap : Nat) : Bool :=
  match BinaryParts.ofFloat? jitter with
  | none => false
  | some parts =>
    let denominator : Nat := Nat.pow 2 (-parts.exponent).toNat
    let size : Nat := if parts.negative then 0 else parts.mantissa * Nat.pow 2 parts.exponent.toNat
    let least := interval.nanos * (denominator - size)
    let greatest := interval.nanos * (denominator + size)
    let shortest := shortestSpreadNanos * denominator
    max least shortest ≤ (gap + slack) * denominator
      && gap * denominator ≤ max greatest shortest + slack * denominator

end LiveFlags
