import LiveFlags.Decimal.Binary

/-!
# The shortest decimal that reads back

Every real number between the midpoints to the two neighbours of a double rounds to that double (the
midpoints themselves do when its mantissa is even). `shortest` returns the decimal with the fewest
digits in that interval, and of several the one nearest to the double; an exact tie goes to the even
digit.

The search walks the powers of ten downward from one that is too coarse. On the grid of multiples of
`10 ^ p` only the two neighbours of the double need a look: if any multiple lies in the interval, one
of these two does. All comparisons are between whole numbers.
-/
namespace LiveFlags

/-- A decimal number without a sign: `coefficient · 10 ^ exponent`. -/
structure Decimal where
  /-- The digits, read as a number. -/
  coefficient : Nat
  /-- The power of ten of the last digit. -/
  exponent : Int
  deriving DecidableEq, Repr, Inhabited

namespace Decimal

/-- The real numbers that round to one double, in units of `2 ^ unit`. -/
structure Interval where
  /-- The double itself. -/
  center : Nat
  /-- The midpoint to the neighbour below. -/
  low : Nat
  /-- The midpoint to the neighbour above. -/
  high : Nat
  /-- Whether the midpoints belong to the interval. -/
  closed : Bool
  /-- The power of two that the three are multiples of. -/
  unit : Int
  deriving DecidableEq, Repr

/-- The interval around a double, in quarters of its last binary place. -/
def Interval.ofParts (parts : BinaryParts) : Interval where
  center := 4 * parts.mantissa
  low := 4 * parts.mantissa - (if parts.narrowBelow then 1 else 2)
  high := 4 * parts.mantissa + 2
  closed := parts.mantissa % 2 = 0
  unit := parts.exponent - 2

namespace Interval

/-- The factor that puts the interval on the common scale of the grid `10 ^ power`. -/
def scale (interval : Interval) (power : Int) : Nat :=
  Nat.pow 2 interval.unit.toNat * Nat.pow 10 (-power).toNat

/-- The distance of two grid points on that common scale. -/
def step (interval : Interval) (power : Int) : Nat :=
  Nat.pow 10 power.toNat * Nat.pow 2 (-interval.unit).toNat

/-- The grid point `index · 10 ^ power` lies in the interval. -/
def holds (interval : Interval) (power : Int) (index : Nat) : Bool :=
  let point := index * interval.step power
  let low := interval.low * interval.scale power
  let high := interval.high * interval.scale power
  if interval.closed then low ≤ point && point ≤ high else low < point && point < high

/-- The grid point in the interval that is nearest to its center, if any lies in it. -/
def nearest? (interval : Interval) (power : Int) : Option Nat :=
  let center := interval.center * interval.scale power
  let step := interval.step power
  let below := center / step
  let above := below + 1
  match interval.holds power below, interval.holds power above with
  | true, true =>
    let down := center - below * step
    let up := above * step - center
    some (if down < up || (down = up && below % 2 = 0) then below else above)
  | true, false => some below
  | false, true => some above
  | false, false => none

/-- The nearest grid point on the coarsest of `fuel` grids, from `10 ^ power` downward, that has one. -/
def search (interval : Interval) : Nat → Int → Decimal
  | 0, power => ⟨interval.center * interval.scale power / interval.step power, power⟩
  | fuel + 1, power =>
    match interval.nearest? power with
    | some index => ⟨index, power⟩
    | none => search interval fuel (power - 1)

/-- A power of ten above the interval: its binary order times `log₁₀ 2`, rounded up. -/
def coarsest (interval : Interval) : Int :=
  ((Nat.log2 interval.high : Int) + interval.unit) * 30103 / 100000 + 2

end Interval

/-- The decimal with the fewest digits that rounds to the double with these parts. -/
def shortest (parts : BinaryParts) : Decimal :=
  if parts.mantissa = 0 then ⟨0, 0⟩
  else
    let interval := Interval.ofParts parts
    -- Seventeen digits always suffice, and the first grid is at most four places too coarse.
    interval.search 24 interval.coarsest

end Decimal

end LiveFlags
