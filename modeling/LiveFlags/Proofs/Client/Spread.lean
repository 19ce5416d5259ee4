import LiveFlags.Proofs.Client.Waits
import Mathlib.Algebra.Order.Group.MinMax

/-!
# The range of a wait

In exact arithmetic the wait for a draw `u` is the interval times `1 + j · (2 u - 1)` (`exactWait`), which lies
between the interval times one less the spread and times one more (`exactWait_bounds`), and it is rounded to the
nearest whole number of nanoseconds, but no less than a millisecond (`exactJittered`). So such a wait leaves the range
of its interval only where the whole range lies below a millisecond (`keepsSpread_of_sound`). The wait in doubles is
near to the exact one: the two differ by a small part of the interval at most (`abs_waitNanos_sub_le`).
-/
namespace LiveFlags

/-- A fraction from zero to below one. -/
structure ExactDraw where
  /-- The fraction. -/
  value : ℚ
  /-- The fraction is not negative. -/
  atLeast : 0 ≤ value
  /-- The fraction lies below one. -/
  below : value < 1

/-- The fraction that a draw stands for. -/
def Draw.exact (draw : Draw) : ExactDraw := ⟨valueOf draw.value, draw.value_bounds.1, draw.value_bounds.2⟩

/-- The nanoseconds of a wait in exact arithmetic. -/
def exactWait (interval : Duration) (jitter : Float) (draw : ExactDraw) : ℚ :=
  interval.nanos * (1 + valueOf jitter * (2 * draw.value - 1))

/-- The exact wait to the nearest nanosecond. -/
def exactProduct? (interval : Duration) (jitter : Float) (draw : ExactDraw) : Option Duration :=
  let exact := exactWait interval jitter draw
  if exact < 0 then none else Duration.ofNanos? (roundQuotient exact.num.toNat exact.den)

/-- The wait for one draw if its product is computed in exact arithmetic; none where there is no such wait. -/
def exactJittered (interval : Duration) (jitter : Float) (draw : ExactDraw) : Option Duration :=
  spreadWait interval jitter (exactProduct? interval jitter draw)

section InRange

variable {jitter : Float} (inRange : Config.jitterInRange jitter = true)

include inRange

/-- A spread in range that is compared as zero or less is zero. -/
theorem le_zero_iff_valueOf : jitter ≤ 0.0 ↔ valueOf jitter = 0 := by
  obtain ⟨finite, least, _⟩ := valueOf_of_jitterInRange inRange
  rw [float_le_iff finite (by decide +kernel), valueOf_zero]
  exact ⟨fun most => le_antisymm most least, fun none => none.le⟩

/-- The exact factor of a wait lies between one less the spread and one more. -/
theorem exactFactor_bounds (draw : ExactDraw) :
    1 - valueOf jitter ≤ 1 + valueOf jitter * (2 * draw.value - 1) ∧
      1 + valueOf jitter * (2 * draw.value - 1) ≤ 1 + valueOf jitter := by
  obtain ⟨_, least, _⟩ := valueOf_of_jitterInRange inRange
  have low := mul_le_mul_of_nonneg_left (show -1 ≤ 2 * draw.value - 1 by linarith [draw.atLeast]) least
  have high := mul_le_mul_of_nonneg_left (show 2 * draw.value - 1 ≤ 1 by linarith [draw.below]) least
  constructor <;> linarith

/-- In exact arithmetic a wait lies in the range of its interval. -/
theorem exactWait_bounds (interval : Duration) (draw : ExactDraw) :
    interval.nanos * (1 - valueOf jitter) ≤ exactWait interval jitter draw ∧
      exactWait interval jitter draw ≤ interval.nanos * (1 + valueOf jitter) := by
  obtain ⟨low, high⟩ := exactFactor_bounds inRange draw
  have time : (0 : ℚ) ≤ interval.nanos := Nat.cast_nonneg _
  exact ⟨mul_le_mul_of_nonneg_left low time, mul_le_mul_of_nonneg_left high time⟩

/-- In exact arithmetic no wait is negative. -/
theorem exactWait_nonneg (interval : Duration) (draw : ExactDraw) : 0 ≤ exactWait interval jitter draw := by
  obtain ⟨_, _, most⟩ := valueOf_of_jitterInRange inRange
  have time : (0 : ℚ) ≤ interval.nanos * (1 - valueOf jitter) := mul_nonneg (Nat.cast_nonneg _) (by linarith)
  exact time.trans (exactWait_bounds inRange interval draw).1

/-- With a spread there is an exact wait for a draw unless its nanoseconds are too many, and it is rounded, or the
shortest wait. -/
theorem exactJittered_eq_ofNanos? (spread : ¬jitter ≤ 0.0) (interval : Duration) (draw : ExactDraw) :
    ∃ nanos, RoundsTo (exactWait interval jitter draw) nanos ∧
      exactJittered interval jitter draw = Duration.ofNanos? (max nanos shortestSpreadNanos) := by
  have forward := exactWait_nonneg inRange interval draw
  refine ⟨roundQuotient (exactWait interval jitter draw).num.toNat (exactWait interval jitter draw).den, ?_, ?_⟩
  · have quotient : exactWait interval jitter draw =
        ((exactWait interval jitter draw).num.toNat : ℚ) / (exactWait interval jitter draw).den := by
      have whole : ((exactWait interval jitter draw).num.toNat : ℤ) = (exactWait interval jitter draw).num :=
        Int.toNat_of_nonneg (Rat.num_nonneg.mpr forward)
      rw [← Int.cast_natCast, whole, Rat.num_div_den]
    have rounds := roundsTo_roundQuotient (exactWait interval jitter draw).num.toNat
      (exactWait interval jitter draw).pos
    rwa [← quotient] at rounds
  · rw [exactJittered, spreadWait, if_neg spread, exactProduct?, if_neg (not_lt.mpr forward)]
    exact map_longer_ofNanos? _

/-- A wait that is spread is the exact one to the nearest nanosecond, or the shortest one. -/
theorem exists_roundsTo (spread : ¬jitter ≤ 0.0) {interval wait : Duration} {draw : ExactDraw}
    (waits : exactJittered interval jitter draw = some wait) :
    ∃ nanos, RoundsTo (exactWait interval jitter draw) nanos ∧ wait.nanos = max nanos shortestSpreadNanos := by
  obtain ⟨nanos, rounds, same⟩ := exactJittered_eq_ofNanos? inRange spread interval draw
  rw [same, Duration.ofNanos?] at waits
  split at waits
  · obtain rfl := Option.some.inj waits
    exact ⟨nanos, rounds, rfl⟩
  · contradiction

/-- Every wait lies in the range of its interval up to half a nanosecond, or is the shortest one. -/
theorem exactJittered_bounds {interval wait : Duration} {draw : ExactDraw}
    (waits : exactJittered interval jitter draw = some wait) :
    interval.nanos * (1 - valueOf jitter) - 1 / 2 ≤ wait.nanos ∧
      (wait.nanos : ℚ) ≤ max (interval.nanos * (1 + valueOf jitter) + 1 / 2) shortestSpreadNanos := by
  by_cases unspread : jitter ≤ 0.0
  · have none : valueOf jitter = 0 := (le_zero_iff_valueOf inRange).mp unspread
    rw [exactJittered, spreadWait, if_pos unspread] at waits
    obtain rfl := Option.some.inj waits
    rw [none]
    constructor
    · linarith
    · exact le_max_of_le_left (by linarith)
  · obtain ⟨nanos, rounds, same⟩ := exists_roundsTo inRange unspread waits
    obtain ⟨least, greatest⟩ := exactWait_bounds inRange interval draw
    obtain ⟨below, above⟩ := abs_le.mp rounds.nearest
    rw [same, Nat.cast_max]
    constructor
    · exact le_max_of_le_left (by linarith)
    · exact max_le_max_right _ (by linarith)

/-- There is a wait if the exact one is no longer than some duration. -/
theorem exists_exactJittered_of_le {interval duration : Duration} {draw : ExactDraw}
    (short : exactWait interval jitter draw ≤ duration.nanos) :
    ∃ wait, exactJittered interval jitter draw = some wait := by
  by_cases unspread : jitter ≤ 0.0
  · exact ⟨interval, if_pos unspread⟩
  · obtain ⟨nanos, rounds, same⟩ := exactJittered_eq_ofNanos? inRange unspread interval draw
    have near := (abs_le.mp rounds.nearest).2
    have less : (nanos : ℚ) < (duration.nanos + 1 : ℕ) := by
      push_cast
      linarith
    have few := Nat.cast_lt.mp less
    have longest := duration.fits
    have fits : max nanos shortestSpreadNanos < 18446744073709551616000000000 :=
      Nat.max_lt.mpr ⟨by omega, by decide⟩
    rw [same, Duration.ofNanos?, dif_pos fits]
    exact ⟨_, rfl⟩

end InRange

section Doubles

variable {jitter : Float} (inRange : Config.jitterInRange jitter = true)

include inRange

/-- The factor in doubles is near to the exact one. -/
theorem abs_spreadFactor_sub_le (draw : Draw) :
    |valueOf (spreadFactor jitter draw) - (1 + valueOf jitter * (2 * valueOf draw.value - 1))| ≤ 1 / 2 ^ 51 := by
  obtain ⟨_, least, most⟩ := valueOf_of_jitterInRange inRange
  obtain ⟨above, below⟩ := draw.value_bounds
  obtain ⟨stretches, low, high⟩ := rounds_stretch inRange draw
  obtain ⟨down, up⟩ := distance_bounds draw
  have distance := (rounds_distance draw).abs_sub_le 0 (by decide) (by
    rw [zpow_zero]
    exact abs_le.mpr ⟨by linarith, by linarith⟩)
  have stretch := stretches.abs_sub_le 0 (by decide) (by
    rw [zpow_zero, abs_mul, abs_of_nonneg least]
    exact mul_le_one₀ most (abs_nonneg _) (abs_le.mpr ⟨down, up⟩))
  have factor := (rounds_spreadFactor inRange draw).abs_sub_le 1 (by decide) (by
    rw [abs_of_nonneg (by linarith), zpow_one]
    linarith)
  have scaled : |valueOf jitter * valueOf (draw.value * 2.0 - 1.0) - valueOf jitter * (2 * valueOf draw.value - 1)| ≤
      2 ^ (-53 : ℤ) := by
    rw [← mul_sub, abs_mul, abs_of_nonneg least]
    exact (mul_le_of_le_one_left (abs_nonneg _) most).trans distance
  have small : (2 : ℚ) ^ (0 - 53 : ℤ) = 1 / 2 ^ 53 ∧ (2 : ℚ) ^ (1 - 53 : ℤ) = 1 / 2 ^ 52 ∧
      (2 : ℚ) ^ (-53 : ℤ) = 1 / 2 ^ 53 := by norm_num
  rw [small.1] at stretch
  rw [small.2.1] at factor
  rw [small.2.2] at scaled
  obtain ⟨_, _⟩ := abs_le.mp stretch
  obtain ⟨_, _⟩ := abs_le.mp factor
  obtain ⟨_, _⟩ := abs_le.mp scaled
  exact abs_le.mpr ⟨by linarith, by linarith⟩

/-- The seconds of a wait in doubles are near to the exact ones. -/
theorem abs_product_sub_le {interval : Duration} (positive : 0 < interval.nanos) (draw : Draw) :
    |valueOf (spreadFactor jitter draw * interval.toSeconds) * 1000000000 - exactWait interval jitter draw.exact| ≤
      interval.nanos / 2 ^ 48 := by
  obtain ⟨_, low, high⟩ := spreadFactor_bounds inRange draw
  obtain ⟨_, low', _⟩ := interval.toSeconds_bounds
  obtain ⟨rounds, _⟩ := rounds_product inRange interval draw
  have near := abs_spreadFactor_sub_le inRange draw
  have near' := interval.abs_toSeconds_sub_le
  have exact : (0 : ℚ) ≤ 1 + valueOf jitter * (2 * valueOf draw.value - 1) ∧
      1 + valueOf jitter * (2 * valueOf draw.value - 1) ≤ 2 := by
    obtain ⟨_, _, most⟩ := valueOf_of_jitterInRange inRange
    obtain ⟨above, below⟩ := exactFactor_bounds inRange draw.exact
    exact ⟨le_trans (by linarith) above, below.trans (by linarith)⟩
  have wait : exactWait interval jitter draw.exact =
      (interval.nanos / 1000000000) * (1 + valueOf jitter * (2 * valueOf draw.value - 1)) * 1000000000 := by
    unfold exactWait Draw.exact
    ring
  have tall : (2 : ℚ) ^ (-1022 : ℤ) ≤ 4 * (interval.nanos / 1000000000) := by
    have one : (1 : ℚ) ≤ interval.nanos := by exact_mod_cast positive
    have nano : (1 : ℚ) / 1000000000 ≤ interval.nanos / 1000000000 := div_le_div_of_nonneg_right one (by norm_num)
    calc (2 : ℚ) ^ (-1022 : ℤ) ≤ 2 ^ (-30 : ℤ) := zpow_le_zpow_right₀ one_le_two (by decide)
      _ ≤ 1 / 1000000000 := by norm_num
      _ ≤ 4 * (interval.nanos / 1000000000) := by linarith
  have parts : (interval.nanos : ℚ) / 2 ^ 48 = interval.nanos / 1000000000 / 2 ^ 48 * 1000000000 := by ring
  have time : (0 : ℚ) ≤ interval.nanos / 1000000000 := by positivity
  rw [wait, parts, ← sub_mul, abs_mul, abs_of_pos (by norm_num : (0 : ℚ) < 1000000000)]
  refine mul_le_mul_of_nonneg_right ?_ (by norm_num)
  generalize (interval.nanos : ℚ) / 1000000000 = seconds at near' tall time ⊢
  generalize 1 + valueOf jitter * (2 * valueOf draw.value - 1) = factor at near exact ⊢
  obtain ⟨under, upper⟩ := abs_le.mp near'
  have double : valueOf interval.toSeconds ≤ 2 * seconds := by
    have small : seconds / 2 ^ 50 ≤ seconds := div_le_self time (by norm_num)
    linarith
  have total := rounds.abs_sub_le_mul tall (by
    rw [abs_of_nonneg (mul_nonneg low low')]
    exact (mul_le_mul high double low' (by norm_num)).trans_eq (by ring))
  -- the factor is off by little, and so are the seconds
  have first : |(valueOf (spreadFactor jitter draw) - factor) * valueOf interval.toSeconds| ≤ 1 / 2 ^ 51 * (2 * seconds) := by
    rw [abs_mul, abs_of_nonneg low']
    exact mul_le_mul near double low' (by norm_num)
  have second : |factor * (valueOf interval.toSeconds - seconds)| ≤ 2 * (seconds / 2 ^ 50) := by
    rw [abs_mul, abs_of_nonneg exact.1]
    exact mul_le_mul exact.2 near' (abs_nonneg _) (by norm_num)
  obtain ⟨_, _⟩ := abs_le.mp total
  obtain ⟨_, _⟩ := abs_le.mp first
  obtain ⟨_, _⟩ := abs_le.mp second
  have sum : valueOf (spreadFactor jitter draw * interval.toSeconds) - seconds * factor =
      (valueOf (spreadFactor jitter draw * interval.toSeconds) -
        valueOf (spreadFactor jitter draw) * valueOf interval.toSeconds) +
      (valueOf (spreadFactor jitter draw) - factor) * valueOf interval.toSeconds +
      factor * (valueOf interval.toSeconds - seconds) := by ring
  have units : 4 * seconds / 2 ^ 52 + 1 / 2 ^ 51 * (2 * seconds) + 2 * (seconds / 2 ^ 50) = seconds / 2 ^ 48 := by ring
  rw [sum, ← units]
  exact abs_le.mpr ⟨by linarith, by linarith⟩

/-- A wait that is spread is near to the exact one, or to the shortest one. -/
theorem abs_waitNanos_sub_le {interval : Duration} (positive : 0 < interval.nanos) (spread : ¬jitter ≤ 0.0)
    (draw : Draw) :
    |(waitNanos interval jitter draw : ℚ) - max (exactWait interval jitter draw.exact) shortestSpreadNanos| ≤
      interval.nanos / 2 ^ 48 + 1 / 2 := by
  obtain ⟨rounds, forward⟩ := rounds_product inRange interval draw
  have near := abs_product_sub_le inRange positive draw
  have whole := (roundsTo_nanosOf rounds.isFinite forward).nearest
  rw [waitNanos, if_neg spread, Nat.cast_max]
  refine (abs_max_sub_max_le_abs _ _ _).trans ?_
  exact (abs_sub_le _ _ _).trans ((add_le_add whole near).trans_eq (add_comm _ _))

end Doubles

/-- What the spread of a configuration means for its waits. -/
structure KeepsSpread (config : Config) : Prop where
  /-- There is a wait for every draw for which the exact one is no longer than some duration. -/
  waits : ∀ draw (duration : Duration), exactWait config.pollInterval config.jitterFraction draw ≤ duration.nanos →
    ∃ wait, exactJittered config.pollInterval config.jitterFraction draw = some wait
  /-- Without a spread every wait is the interval. -/
  unspread : valueOf config.jitterFraction = 0 → ∀ draw,
    exactJittered config.pollInterval config.jitterFraction draw = some config.pollInterval
  /-- With one it is the exact wait to the nearest nanosecond, but no less than a millisecond. -/
  rounded : valueOf config.jitterFraction ≠ 0 → ∀ draw wait,
    exactJittered config.pollInterval config.jitterFraction draw = some wait →
      ∃ nanos, RoundsTo (exactWait config.pollInterval config.jitterFraction draw) nanos ∧
        wait.nanos = max nanos shortestSpreadNanos
  /-- Every wait is positive. -/
  positive : ∀ draw wait, exactJittered config.pollInterval config.jitterFraction draw = some wait → 0 < wait.nanos
  /-- No wait is shorter than the range of the interval allows. -/
  least : ∀ draw wait, exactJittered config.pollInterval config.jitterFraction draw = some wait →
    config.pollInterval.nanos * (1 - valueOf config.jitterFraction) - 1 / 2 ≤ wait.nanos
  /-- No wait is longer than the range of the interval and a millisecond allow. -/
  greatest : ∀ draw wait, exactJittered config.pollInterval config.jitterFraction draw = some wait →
    (wait.nanos : ℚ) ≤
      max (config.pollInterval.nanos * (1 + valueOf config.jitterFraction) + 1 / 2) shortestSpreadNanos
  /-- No wait is longer than the range of the interval allows if this range reaches a millisecond. -/
  within : shortestSpreadNanos ≤ config.pollInterval.nanos * (1 + valueOf config.jitterFraction) → ∀ draw wait,
    exactJittered config.pollInterval config.jitterFraction draw = some wait →
      wait.nanos ≤ config.pollInterval.nanos * (1 + valueOf config.jitterFraction) + 1 / 2
  /-- In doubles every wait is the interval as well if there is no spread. -/
  plain : valueOf config.jitterFraction = 0 → ∀ draw,
    jittered config.pollInterval config.jitterFraction draw = some config.pollInterval
  /-- With one it differs from the exact wait, or from a millisecond if that is more, by half a nanosecond and a small
  part of the interval at most. -/
  near : valueOf config.jitterFraction ≠ 0 → ∀ (draw : Draw) wait,
    jittered config.pollInterval config.jitterFraction draw = some wait →
      |(wait.nanos : ℚ) - max (exactWait config.pollInterval config.jitterFraction draw.exact) shortestSpreadNanos| ≤
        config.pollInterval.nanos / 2 ^ 48 + 1 / 2

/-- The waits of a sound configuration keep to the range of its interval, but for a millisecond. -/
theorem keepsSpread_of_sound (config : Config) (sound : config.validate = .ok ()) : KeepsSpread config := by
  obtain ⟨positive, _, _, inRange⟩ := Config.validate_eq_ok_iff.mp sound
  have spread : valueOf config.jitterFraction ≠ 0 → ¬config.jitterFraction ≤ 0.0 :=
    fun some none => some ((le_zero_iff_valueOf inRange).mp none)
  constructor
  case waits => exact fun _ _ short => exists_exactJittered_of_le inRange short
  case unspread => exact fun none _ => if_pos ((le_zero_iff_valueOf inRange).mpr none)
  case rounded => exact fun some _ _ waits => exists_roundsTo inRange (spread some) waits
  case positive =>
    intro draw wait waits
    by_cases unspread : config.jitterFraction ≤ 0.0
    · rw [exactJittered, spreadWait, if_pos unspread] at waits
      obtain rfl := Option.some.inj waits
      exact positive
    · obtain ⟨nanos, _, same⟩ := exists_roundsTo inRange unspread waits
      rw [same, shortestSpreadNanos]
      omega
  case least => exact fun _ _ waits => (exactJittered_bounds inRange waits).1
  case greatest => exact fun _ _ waits => (exactJittered_bounds inRange waits).2
  case within =>
    intro reaches draw wait waits
    refine (exactJittered_bounds inRange waits).2.trans (max_le le_rfl ?_)
    linarith
  case plain => exact fun none _ => jittered_of_unspread ((le_zero_iff_valueOf inRange).mpr none) _ _
  case near =>
    intro some draw wait waits
    rw [jittered_eq_ofNanos? inRange, Duration.ofNanos?] at waits
    split at waits
    · obtain rfl := Option.some.inj waits
      exact abs_waitNanos_sub_le inRange positive (spread some) draw
    · contradiction

/-- A second, spread by a quarter. -/
def quarterSpread : Config := ⟨.ofMillis 1000, 0.25, .ofMillis 500⟩

/-- Three quarters of the way from the shortest wait to the longest. -/
def threeQuarters : ExactDraw := ⟨3 / 4, by norm_num, by norm_num⟩

/-- Three quarters of the way from the shortest wait to the longest a second is lengthened by an eighth. -/
theorem keepsSpread_of_sound_quarterSpread :
    quarterSpread.validate = .ok () ∧ valueOf quarterSpread.jitterFraction = 1 / 4 ∧
      exactJittered quarterSpread.pollInterval quarterSpread.jitterFraction threeQuarters =
        some ⟨1125000000, by decide⟩ ∧
      (∃ nanos, RoundsTo (exactWait quarterSpread.pollInterval quarterSpread.jitterFraction threeQuarters) nanos ∧
        1125000000 = max nanos shortestSpreadNanos) ∧
      (∀ draw wait, exactJittered quarterSpread.pollInterval quarterSpread.jitterFraction draw = some wait →
        (wait.nanos : ℚ) ≤ 1250000000 + 1 / 2) ∧
      jittered quarterSpread.pollInterval quarterSpread.jitterFraction .half = some ⟨1000000000, by decide⟩ := by
  have sound : quarterSpread.validate = .ok () :=
    Config.validate_eq_ok_iff.mpr ⟨by decide, by decide, by decide, by decide +kernel⟩
  have spread : valueOf quarterSpread.jitterFraction = 1 / 4 := by decide +kernel
  have waits : exactJittered quarterSpread.pollInterval quarterSpread.jitterFraction threeQuarters =
      some ⟨1125000000, by decide⟩ := by decide +kernel
  have keeps := keepsSpread_of_sound quarterSpread sound
  refine ⟨sound, spread, waits, keeps.rounded (by rw [spread]; norm_num) _ _ waits, fun draw wait same => ?_,
    by decide +kernel⟩
  have within := keeps.within (by rw [spread]; decide +kernel) draw wait same
  rw [spread] at within
  refine within.trans (le_of_eq ?_)
  decide +kernel

/-- An interval of less than a millisecond, hardly spread. -/
def briefInterval : Config := ⟨⟨400000, by decide⟩, 0.001, ⟨100000, by decide⟩⟩

/-- The longest interval of whole seconds, spread by a quarter. -/
def longestSpread : Config := ⟨⟨18446744073709551615000000000, by decide⟩, 0.25, .ofMillis 50⟩

/-- A wait of a millisecond lies far beyond the range of a brief interval, in doubles as well, and of the longest
interval there are draws without a wait. -/
theorem spread_left_at_both_ends :
    briefInterval.validate = .ok () ∧
      exactJittered briefInterval.pollInterval briefInterval.jitterFraction ⟨1 / 2, by norm_num, by norm_num⟩ =
        some ⟨1000000, by decide⟩ ∧
      jittered briefInterval.pollInterval briefInterval.jitterFraction .half = some ⟨1000000, by decide⟩ ∧
      briefInterval.pollInterval.nanos * (1 + valueOf briefInterval.jitterFraction) + 1 < 1000000 ∧
      longestSpread.validate = .ok () ∧
      exactJittered longestSpread.pollInterval longestSpread.jitterFraction threeQuarters = none := by
  refine ⟨?_, by decide +kernel, by decide +kernel, by decide +kernel, ?_, by decide +kernel⟩
  · exact Config.validate_eq_ok_iff.mpr ⟨by decide, by decide, by decide, by decide +kernel⟩
  · exact Config.validate_eq_ok_iff.mpr ⟨by decide, by decide, by decide, by decide +kernel⟩

end LiveFlags
