import LiveFlags.Client.Step
import LiveFlags.Proofs.Time.Seconds

/-!
# Waits of a sound configuration

A sound configuration has positive times, a fetch ends before the interval is over, and the spread is a
fraction from zero to one (`Config.validate_eq_ok_iff`). So the factor of every wait is a double from zero to two
(`spreadFactor_bounds`), and the only reason why there is no wait for a draw is that it would be longer than any
duration (`jittered_eq_ofNanos?`). A greater draw leaves no shorter wait (`waitNanos_mono`), so all waits lie
between those of the least draw and of the greatest one (`waitNanos_bounds`).
-/
namespace LiveFlags

/-- A configuration is sound exactly if its times are positive, a fetch ends before the interval is over
and the spread is in range. -/
theorem Config.validate_eq_ok_iff {config : Config} : config.validate = .ok () ↔
    0 < config.pollInterval.nanos ∧ 0 < config.fetchTimeout.nanos ∧
      config.fetchTimeout.nanos < config.pollInterval.nanos ∧
      Config.jitterInRange config.jitterFraction = true := by
  have longer : config.pollInterval ≤ config.fetchTimeout ↔
      config.pollInterval.nanos ≤ config.fetchTimeout.nanos := Iff.rfl
  unfold Config.validate Duration.isZero
  simp only [longer, decide_eq_true_eq, Bool.not_eq_eq_eq_not, Bool.not_true]
  split
  · exact iff_of_false (by simp) (by omega)
  split
  · exact iff_of_false (by simp) (by omega)
  split
  · exact iff_of_false (by simp) (by omega)
  split
  · rename_i outOfRange
    exact iff_of_false (by simp) (by simp [outOfRange])
  · rename_i inRange
    exact iff_of_true rfl ⟨by omega, by omega, by omega, by simpa using inRange⟩

namespace Draw

/-- The least draw. -/
def least : Draw := ⟨0.0, by decide +kernel, by decide +kernel⟩

/-- The greatest draw, the double just below one. -/
def greatest : Draw := ⟨Float.ofBits 0x3FEFFFFFFFFFFFFF, by decide +kernel, by decide +kernel⟩

/-- A draw is finite. -/
theorem isFinite (draw : Draw) : draw.value.isFinite = true := by
  have finite : draw.value.isFinite = draw.value.toModel.unpack.isFinite := rfl
  have above : Float.le 0.0 draw.value = true := draw.atLeast
  have below : Float.lt draw.value 1.0 = true := draw.below
  rw [Float.le, decide_eq_true_iff] at above
  rw [Float.lt, decide_eq_true_iff] at below
  change ((Float.Model.UnpackedFloat.zero .positive).compare draw.value.toModel.unpack).any (·.isLE) = true at above
  change (draw.value.toModel.unpack.compare
    (.finite .positive 4503599627370496 (-52) (by decide)) == some .lt) = true at below
  rw [finite]
  generalize draw.value.toModel.unpack = computed at above below ⊢
  cases computed with
  | notANumber => contradiction
  | zero | finite => rfl
  | infinity sign =>
    cases sign with
    | negative => contradiction
    | positive => contradiction

/-- A draw is a fraction from zero to below one. -/
theorem value_bounds (draw : Draw) : 0 ≤ valueOf draw.value ∧ valueOf draw.value < 1 := by
  have above := (float_le_iff (by decide +kernel) draw.isFinite).mp draw.atLeast
  have below := (float_lt_iff draw.isFinite (by decide +kernel)).mp draw.below
  rw [valueOf_zero] at above
  rw [valueOf_one] at below
  exact ⟨above, below⟩

/-- No draw is less than the least one. -/
theorem valueOf_least_le (draw : Draw) : valueOf least.value ≤ valueOf draw.value := by
  have none : valueOf least.value = 0 := valueOf_zero
  rw [none]
  exact draw.value_bounds.1

/-- No draw is greater than the greatest one. -/
theorem valueOf_le_greatest (draw : Draw) : valueOf draw.value ≤ valueOf greatest.value := by
  have last : valueOf greatest.value = 9007199254740991 / 9007199254740992 := by decide +kernel
  obtain ⟨low, high⟩ := draw.value_bounds
  obtain ⟨parts, same⟩ := BinaryParts.exists_parts_of_isFinite draw.isFinite
  have canonical := BinaryParts.canonical_of_ofFloat? same
  rw [last]
  rw [valueOf_eq same] at low high ⊢
  have power : (0 : ℚ) < 2 ^ parts.exponent := zpow_pos two_pos _
  have size : parts.value = parts.mantissa * 2 ^ parts.exponent := by
    cases sign : parts.negative with
    | false => exact BinaryParts.value_of_nonneg sign
    | true =>
      have opposite := BinaryParts.value_of_negative sign
      have positive : (0 : ℚ) ≤ parts.mantissa * 2 ^ parts.exponent := mul_nonneg (Nat.cast_nonneg _) power.le
      linarith
  rw [size] at high ⊢
  have few : (parts.mantissa : ℚ) ≤ 9007199254740991 := by exact_mod_cast Nat.le_of_lt_succ canonical.few
  -- with a greater exponent a mantissa of all bits makes one at least
  have small : parts.exponent ≤ -53 := by
    by_contra! large
    have full : (4503599627370496 : ℚ) ≤ parts.mantissa := by
      exact_mod_cast canonical.full.resolve_right (by omega)
    have unit : (2 : ℚ) ^ (-52 : ℤ) ≤ 2 ^ parts.exponent := zpow_le_zpow_right₀ one_le_two (by omega)
    have one : (4503599627370496 : ℚ) * 2 ^ (-52 : ℤ) = 1 := by norm_num
    have product := mul_le_mul full unit (zpow_pos two_pos _).le (by linarith)
    linarith
  have unit : (2 : ℚ) ^ parts.exponent ≤ 2 ^ (-53 : ℤ) := zpow_le_zpow_right₀ one_le_two small
  calc (parts.mantissa : ℚ) * 2 ^ parts.exponent ≤ 9007199254740991 * 2 ^ (-53 : ℤ) :=
        mul_le_mul few unit power.le (by norm_num)
    _ = 9007199254740991 / 9007199254740992 := by norm_num

end Draw

/-- The distance of a draw from the middle, in halves, is rounded. -/
theorem rounds_distance (draw : Draw) :
    Rounds (2 * valueOf draw.value - 1) (draw.value * 2.0 - 1.0) := by
  obtain ⟨low, high⟩ := draw.value_bounds
  have double := rounds_mul draw.isFinite (by decide +kernel : (2.0 : Float).isFinite = true) (by
    rw [valueOf_two, abs_of_nonneg (by linarith)]
    exact (by linarith : valueOf draw.value * 2 ≤ 2 ^ 1).trans (pow_le_pow_right₀ one_le_two (by decide)))
  rw [valueOf_two, mul_comm] at double
  have exact := double.eq_of_representable (representable_valueOf draw.isFinite).two_mul
  have difference := rounds_sub double.isFinite (by decide +kernel : (1.0 : Float).isFinite = true) (by
    rw [valueOf_one, exact]
    have short : |2 * valueOf draw.value - 1| ≤ 1 := abs_le.mpr ⟨by linarith, by linarith⟩
    exact short.trans (one_le_pow₀ one_le_two))
  rw [valueOf_one, exact] at difference
  exact difference

/-- No draw lies further away from the middle than both ends. -/
theorem distance_bounds (draw : Draw) :
    -1 ≤ valueOf (draw.value * 2.0 - 1.0) ∧ valueOf (draw.value * 2.0 - 1.0) ≤ 1 := by
  obtain ⟨low, high⟩ := draw.value_bounds
  have rounds := rounds_distance draw
  exact ⟨rounds.ge_of_ge (representable_two_pow 0).neg (by linarith), rounds.le_of_le (representable_two_pow 0) (by linarith)⟩

section InRange

variable {jitter : Float} (inRange : Config.jitterInRange jitter = true)

include inRange

/-- What is added to one to make a factor is rounded, and lies between minus one and one. -/
theorem rounds_stretch (draw : Draw) :
    Rounds (valueOf jitter * valueOf (draw.value * 2.0 - 1.0)) (jitter * (draw.value * 2.0 - 1.0)) ∧
      -1 ≤ valueOf (jitter * (draw.value * 2.0 - 1.0)) ∧ valueOf (jitter * (draw.value * 2.0 - 1.0)) ≤ 1 := by
  obtain ⟨finite, least, most⟩ := valueOf_of_jitterInRange inRange
  obtain ⟨low, high⟩ := distance_bounds draw
  have size : |valueOf jitter * valueOf (draw.value * 2.0 - 1.0)| ≤ 1 := by
    rw [abs_mul, abs_of_nonneg least]
    exact mul_le_one₀ most (abs_nonneg _) (abs_le.mpr ⟨low, high⟩)
  have rounds := rounds_mul finite (rounds_distance draw).isFinite (size.trans (one_le_pow₀ one_le_two))
  obtain ⟨below, above⟩ := abs_le.mp size
  exact ⟨rounds, rounds.ge_of_ge (representable_two_pow 0).neg below, rounds.le_of_le (representable_two_pow 0) above⟩

/-- The factor of a wait is rounded. -/
theorem rounds_spreadFactor (draw : Draw) :
    Rounds (1 + valueOf (jitter * (draw.value * 2.0 - 1.0))) (spreadFactor jitter draw) := by
  obtain ⟨rounds, low, high⟩ := rounds_stretch inRange draw
  have sum := rounds_add (by decide +kernel : (1.0 : Float).isFinite = true) rounds.isFinite (by
    rw [valueOf_one, abs_of_nonneg (by linarith)]
    exact (by linarith : 1 + valueOf (jitter * (draw.value * 2.0 - 1.0)) ≤ 2 ^ 1).trans
      (pow_le_pow_right₀ one_le_two (by decide)))
  rw [valueOf_one] at sum
  exact sum

/-- With a spread in range the factor of a wait is a double from zero to two. -/
theorem spreadFactor_bounds (draw : Draw) :
    (spreadFactor jitter draw).isFinite = true ∧ 0 ≤ valueOf (spreadFactor jitter draw) ∧
      valueOf (spreadFactor jitter draw) ≤ 2 := by
  obtain ⟨_, low, high⟩ := rounds_stretch inRange draw
  have rounds := rounds_spreadFactor inRange draw
  refine ⟨rounds.isFinite, rounds.nonneg (by linarith), ?_⟩
  have few := representable_two_pow 1
  rw [pow_one] at few
  exact rounds.le_of_le few (by linarith)

/-- A greater draw has no lesser factor. -/
theorem spreadFactor_mono {draw greater : Draw} (ordered : valueOf draw.value ≤ valueOf greater.value) :
    valueOf (spreadFactor jitter draw) ≤ valueOf (spreadFactor jitter greater) := by
  obtain ⟨_, least, _⟩ := valueOf_of_jitterInRange inRange
  have distance := (rounds_distance draw).mono (rounds_distance greater) (by linarith)
  have stretch := (rounds_stretch inRange draw).1.mono (rounds_stretch inRange greater).1
    (mul_le_mul_of_nonneg_left distance least)
  exact (rounds_spreadFactor inRange draw).mono (rounds_spreadFactor inRange greater) (by linarith)

/-- The seconds of a wait are rounded. -/
theorem rounds_product (interval : Duration) (draw : Draw) :
    Rounds (valueOf (spreadFactor jitter draw) * valueOf interval.toSeconds)
        (spreadFactor jitter draw * interval.toSeconds) ∧
      0 ≤ valueOf (spreadFactor jitter draw * interval.toSeconds) := by
  obtain ⟨finite, low, high⟩ := spreadFactor_bounds inRange draw
  obtain ⟨finite', low', high'⟩ := interval.toSeconds_bounds
  have forward := mul_nonneg low low'
  have rounds := rounds_mul finite finite' (by
    rw [abs_of_nonneg forward]
    calc valueOf (spreadFactor jitter draw) * valueOf interval.toSeconds ≤ 2 * 2 ^ 65 :=
          mul_le_mul high high' low' (by norm_num)
      _ = 2 ^ 66 := by norm_num
      _ ≤ 2 ^ 1022 := pow_le_pow_right₀ one_le_two (by decide))
  exact ⟨rounds, rounds.nonneg forward⟩

end InRange

/-- The nanoseconds of the wait for one draw, however many they are. -/
def waitNanos (interval : Duration) (jitter : Float) (draw : Draw) : Nat :=
  if jitter ≤ 0.0 then interval.nanos
  else max (nanosOf (spreadFactor jitter draw * interval.toSeconds)) shortestSpreadNanos

/-- Without a spread every wait is the interval. -/
theorem jittered_of_unspread {jitter : Float} (unspread : jitter ≤ 0.0) (interval : Duration) (draw : Draw) :
    jittered interval jitter draw = some interval :=
  if_pos unspread

/-- The longer of a duration and the shortest wait, in nanoseconds. -/
theorem map_longer_ofNanos? (nanos : Nat) :
    (Duration.ofNanos? nanos).map (·.longer ⟨shortestSpreadNanos, by decide⟩) =
      Duration.ofNanos? (max nanos shortestSpreadNanos) := by
  unfold Duration.ofNanos?
  by_cases fits : nanos < 18446744073709551616000000000
  · have both : max nanos shortestSpreadNanos < 18446744073709551616000000000 :=
      Nat.max_lt.mpr ⟨fits, by decide⟩
    rw [dif_pos fits, dif_pos both, Option.map_some]
    exact congrArg some (Duration.ext (Duration.nanos_longer _ _))
  · have long : ¬max nanos shortestSpreadNanos < 18446744073709551616000000000 :=
      fun less => fits (Nat.lt_of_le_of_lt (Nat.le_max_left _ _) less)
    rw [dif_neg fits, dif_neg long, Option.map_none]

section InRange

variable {interval : Duration} {jitter : Float} (inRange : Config.jitterInRange jitter = true)

include inRange

/-- With a spread in range there is a wait for a draw exactly if its nanoseconds are those of a duration. -/
theorem jittered_eq_ofNanos? (draw : Draw) :
    jittered interval jitter draw = Duration.ofNanos? (waitNanos interval jitter draw) := by
  by_cases unspread : jitter ≤ 0.0
  · rw [jittered_of_unspread unspread, waitNanos, if_pos unspread, Duration.ofNanos?, dif_pos interval.fits]
  · obtain ⟨rounds, forward⟩ := rounds_product inRange interval draw
    rw [jittered, spreadWait, if_neg unspread, waitNanos, if_neg unspread, Duration.times?,
      ofSeconds?_eq rounds.isFinite forward]
    exact map_longer_ofNanos? _

/-- A greater draw leaves no shorter wait. -/
theorem waitNanos_mono {draw greater : Draw} (ordered : valueOf draw.value ≤ valueOf greater.value) :
    waitNanos interval jitter draw ≤ waitNanos interval jitter greater := by
  unfold waitNanos
  split
  · exact Nat.le_refl _
  · obtain ⟨rounds, forward⟩ := rounds_product inRange interval draw
    obtain ⟨rounds', _⟩ := rounds_product inRange interval greater
    have seconds := rounds.mono rounds'
      (mul_le_mul_of_nonneg_right (spreadFactor_mono inRange ordered) interval.toSeconds_bounds.2.1)
    have nanos := nanosOf_mono rounds.isFinite forward rounds'.isFinite seconds
    omega

/-- Every wait lies between those of the least and of the greatest draw. -/
theorem waitNanos_bounds (draw : Draw) :
    waitNanos interval jitter .least ≤ waitNanos interval jitter draw ∧
      waitNanos interval jitter draw ≤ waitNanos interval jitter .greatest :=
  ⟨waitNanos_mono inRange draw.valueOf_least_le, waitNanos_mono inRange draw.valueOf_le_greatest⟩

end InRange

/-- The clock can name every deadline that is set by an instant: the end of a fetch, and the end of the
wait after it for every draw. -/
def Config.NamesDeadlines (config : Config) (instant : Nat) : Prop :=
  instant + config.fetchTimeout.nanos < Instant.limit ∧
    ∀ draw, ∃ wait, jittered config.pollInterval config.jitterFraction draw = some wait ∧
      instant + wait.nanos < Instant.limit

/-- With a sound configuration the clock can name every deadline if it can name the end of the time for a fetch and
the end of the longest wait. -/
theorem namesDeadlines_of_greatest {config : Config} {instant : Nat} (sound : config.validate = .ok ())
    (ends : instant + config.fetchTimeout.nanos < Instant.limit)
    (longest : instant + waitNanos config.pollInterval config.jitterFraction .greatest < Instant.limit) :
    config.NamesDeadlines instant := by
  obtain ⟨_, _, _, inRange⟩ := Config.validate_eq_ok_iff.mp sound
  refine ⟨ends, fun draw => ?_⟩
  have short := (@waitNanos_bounds config.pollInterval _ inRange draw).2
  have named := Nat.lt_of_le_of_lt (Nat.le_trans short (Nat.le_add_left _ instant)) longest
  have fits : waitNanos config.pollInterval config.jitterFraction draw < 18446744073709551616000000000 :=
    Nat.lt_trans named (by decide)
  refine ⟨⟨_, fits⟩, ?_, ?_⟩
  · rw [jittered_eq_ofNanos? inRange, Duration.ofNanos?, dif_pos fits]
  · exact Nat.lt_of_le_of_lt (Nat.add_le_add_left short _) longest

end LiveFlags
