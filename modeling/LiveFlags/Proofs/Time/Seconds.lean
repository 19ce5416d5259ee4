import LiveFlags.Proofs.Decimal.Arithmetic

/-!
# Durations as doubles

The seconds of a duration are a finite double that is not negative (`Duration.toSeconds_bounds`) near to its
nanoseconds (`Duration.abs_toSeconds_sub_le`). A finite double that is not negative is made a duration by
rounding its seconds to whole nanoseconds (`roundsTo_nanosOf`), unless they are too many (`ofSeconds?_eq`).
-/
namespace LiveFlags

/-- The nanoseconds of so many seconds, however many they are. -/
def nanosOf (seconds : Float) : ℕ := (BinaryParts.ofFloat? seconds).elim 0 BinaryParts.nanos

section Finite

variable {seconds : Float} (finite : seconds.isFinite = true) (forward : 0 ≤ valueOf seconds)

include finite forward

/-- The nanoseconds of a finite double that is not negative are rounded. -/
theorem roundsTo_nanosOf : RoundsTo (valueOf seconds * 1000000000) (nanosOf seconds) := by
  obtain ⟨parts, same⟩ := BinaryParts.exists_parts_of_isFinite finite
  rw [valueOf_eq same] at forward ⊢
  rw [nanosOf, same, Option.elim]
  have size : parts.value = parts.mantissa * 2 ^ parts.exponent := by
    cases sign : parts.negative with
    | false => exact BinaryParts.value_of_nonneg sign
    | true =>
      -- only zero has a sign and is not negative
      have opposite := BinaryParts.value_of_negative sign
      have power : (0 : ℚ) ≤ parts.mantissa * 2 ^ parts.exponent :=
        mul_nonneg (Nat.cast_nonneg _) (zpow_pos two_pos _).le
      linarith
  have exact : parts.value * 1000000000 =
      ((parts.mantissa * Nat.pow 2 parts.exponent.toNat * 1000000000 : ℕ) : ℚ) /
        ((Nat.pow 2 (-parts.exponent).toNat : ℕ) : ℚ) := by
    rw [size]
    simp only [Nat.pow_eq]
    push_cast
    rcases le_total 0 parts.exponent with whole | fraction
    · have none : (-parts.exponent).toNat = 0 := by omega
      have power : (2 : ℚ) ^ parts.exponent = 2 ^ parts.exponent.toNat := by
        rw [← zpow_natCast, Int.toNat_of_nonneg whole]
      rw [none, power, pow_zero, div_one]
    · have none : parts.exponent.toNat = 0 := by omega
      have power : (2 : ℚ) ^ parts.exponent = (2 ^ (-parts.exponent).toNat)⁻¹ := by
        rw [← zpow_natCast, Int.toNat_of_nonneg (by omega), zpow_neg, inv_inv]
      rw [none, power, pow_zero]
      ring
  rw [exact]
  exact roundsTo_roundQuotient _ (Nat.two_pow_pos _)

/-- A finite double that is not negative is made a duration unless its nanoseconds are too many. -/
theorem ofSeconds?_eq : Duration.ofSeconds? seconds = Duration.ofNanos? (nanosOf seconds) := by
  have zero : (0.0 : Float).isFinite = true := by decide +kernel
  have least : ¬seconds < 0.0 := by
    rw [float_lt_iff finite zero, valueOf_zero]
    exact not_lt.mpr forward
  obtain ⟨parts, same⟩ := BinaryParts.exists_parts_of_isFinite finite
  rw [Duration.ofSeconds?, if_neg least, nanosOf, same, Option.bind_some, Option.elim]

/-- More seconds have no fewer nanoseconds. -/
theorem nanosOf_mono {more : Float} (finiteMore : more.isFinite = true) (ordered : valueOf seconds ≤ valueOf more) :
    nanosOf seconds ≤ nanosOf more := by
  refine (roundsTo_nanosOf finite forward).mono (roundsTo_nanosOf finiteMore (forward.trans ordered)) ?_
  exact mul_le_mul_of_nonneg_right ordered (by norm_num)

end Finite

namespace Duration

variable (duration : Duration)

/-- The whole seconds of a duration are made a double by rounding. -/
theorem rounds_seconds : Rounds duration.seconds (UInt64.ofNat duration.seconds).toFloat := by
  have fits := duration.fits
  have small : duration.seconds < 18446744073709551616 := by
    unfold seconds
    omega
  have word : (UInt64.ofNat duration.seconds).toNat = duration.seconds := UInt64.toNat_ofNat_of_lt' small
  have rounds := rounds_toFloat_uint64 (UInt64.ofNat duration.seconds)
  rwa [word] at rounds

/-- So is the fraction of a second after them. -/
theorem rounds_subsecond :
    Rounds (duration.subsecondNanos / 1000000000) ((UInt32.ofNat duration.subsecondNanos).toFloat / 1000000000.0) := by
  have billion : valueOf 1000000000.0 = 1000000000 := by decide +kernel
  have small : duration.subsecondNanos < 1000000000 := Nat.mod_lt _ (by decide)
  have word : (UInt32.ofNat duration.subsecondNanos).toNat = duration.subsecondNanos :=
    UInt32.toNat_ofNat_of_lt' (Nat.lt_trans small (by decide))
  have rounds := rounds_toFloat_uint32 (UInt32.ofNat duration.subsecondNanos)
  rw [word] at rounds
  have exact := rounds.eq_of_representable (representable_natCast (Nat.lt_trans small (by decide)))
  have below : ((duration.subsecondNanos : ℕ) : ℚ) / 1000000000 ≤ 1 := by
    rw [div_le_one (by norm_num)]
    exact_mod_cast small.le
  have divides := rounds_div rounds.isFinite (by decide +kernel : (1000000000.0 : Float).isFinite = true)
    (by rw [billion]; norm_num) (by
      rw [exact, billion, abs_of_nonneg (by positivity)]
      exact below.trans (one_le_pow₀ one_le_two))
  rwa [exact, billion] at divides

/-- Both parts of the seconds of a duration are not negative and small. -/
theorem parts_bounds :
    0 ≤ valueOf (UInt64.ofNat duration.seconds).toFloat ∧
      valueOf (UInt64.ofNat duration.seconds).toFloat ≤ 2 ^ 64 ∧
      0 ≤ valueOf ((UInt32.ofNat duration.subsecondNanos).toFloat / 1000000000.0) ∧
      valueOf ((UInt32.ofNat duration.subsecondNanos).toFloat / 1000000000.0) ≤ 1 := by
  have fits := duration.fits
  have whole : (duration.seconds : ℚ) ≤ 2 ^ 64 := by
    have small : duration.seconds ≤ 2 ^ 64 := by
      unfold seconds
      omega
    exact_mod_cast small
  have fraction : (duration.subsecondNanos : ℚ) / 1000000000 ≤ 1 := by
    have small : duration.subsecondNanos < 1000000000 := Nat.mod_lt _ (by decide)
    rw [div_le_one (by norm_num)]
    exact_mod_cast small.le
  exact ⟨duration.rounds_seconds.nonneg (Nat.cast_nonneg _),
    duration.rounds_seconds.le_of_le (representable_two_pow 64) whole,
    duration.rounds_subsecond.nonneg (by positivity),
    duration.rounds_subsecond.le_of_le (representable_two_pow 0) fraction⟩

/-- The seconds of a duration are the rounded sum of both parts. -/
theorem rounds_toSeconds :
    Rounds (valueOf (UInt64.ofNat duration.seconds).toFloat +
        valueOf ((UInt32.ofNat duration.subsecondNanos).toFloat / 1000000000.0)) duration.toSeconds := by
  obtain ⟨low, high, some, most⟩ := duration.parts_bounds
  refine rounds_add duration.rounds_seconds.isFinite duration.rounds_subsecond.isFinite ?_
  rw [abs_of_nonneg (add_nonneg low some)]
  calc _ ≤ (2 : ℚ) ^ 64 + 1 := add_le_add high most
    _ ≤ 2 ^ 65 := by norm_num
    _ ≤ 2 ^ 1022 := pow_le_pow_right₀ one_le_two (by decide)

/-- The seconds of a duration are no less than zero and not too many for a double. -/
theorem toSeconds_bounds :
    duration.toSeconds.isFinite = true ∧ 0 ≤ valueOf duration.toSeconds ∧ valueOf duration.toSeconds ≤ 2 ^ 65 := by
  obtain ⟨low, high, some, most⟩ := duration.parts_bounds
  have rounds := duration.rounds_toSeconds
  refine ⟨rounds.isFinite, rounds.nonneg (add_nonneg low some), rounds.le_of_le (representable_two_pow 65) ?_⟩
  exact (add_le_add high most).trans (by norm_num)

/-- The seconds of a duration as a double are near to its nanoseconds. -/
theorem abs_toSeconds_sub_le :
    |valueOf duration.toSeconds - duration.nanos / 1000000000| ≤ duration.nanos / 1000000000 / 2 ^ 50 := by
  obtain ⟨low, _, some, _⟩ := duration.parts_bounds
  have sum : (duration.seconds : ℚ) + duration.subsecondNanos / 1000000000 = duration.nanos / 1000000000 := by
    have whole : (1000000000 : ℚ) * duration.seconds + duration.subsecondNanos = duration.nanos := by
      exact_mod_cast Nat.div_add_mod duration.nanos 1000000000
    rw [← whole]
    ring
  by_cases none : duration.nanos = 0
  · obtain rfl : duration = zero := Duration.ext none
    decide +kernel
  have fraction : (0 : ℚ) ≤ duration.subsecondNanos / 1000000000 := by positivity
  have count : (0 : ℚ) ≤ duration.seconds := Nat.cast_nonneg _
  have tall : (2 : ℚ) ^ (-1022 : ℤ) ≤ duration.nanos / 1000000000 := by
    have one : (1 : ℚ) ≤ duration.nanos := by exact_mod_cast Nat.pos_of_ne_zero none
    calc (2 : ℚ) ^ (-1022 : ℤ) ≤ 2 ^ (-30 : ℤ) := zpow_le_zpow_right₀ one_le_two (by decide)
      _ ≤ 1 / 1000000000 := by norm_num
      _ ≤ duration.nanos / 1000000000 := div_le_div_of_nonneg_right one (by norm_num)
  have whole := duration.rounds_seconds.abs_sub_le_mul tall (by rw [abs_of_nonneg count]; linarith)
  have rest := duration.rounds_subsecond.abs_sub_le_mul tall (by rw [abs_of_nonneg fraction]; linarith)
  have unit : (0 : ℚ) < duration.nanos / 1000000000 := lt_of_lt_of_le (zpow_pos two_pos _) tall
  generalize (duration.nanos : ℚ) / 1000000000 = exact at sum tall whole rest unit ⊢
  have small : exact / 2 ^ 52 ≤ exact / 4 := div_le_div_of_nonneg_left unit.le (by norm_num) (by norm_num)
  have below := abs_le.mp whole
  have above := abs_le.mp rest
  have total := duration.rounds_toSeconds.abs_sub_le_mul (by linarith : (2 : ℚ) ^ (-1022 : ℤ) ≤ 2 * exact) (by
    rw [abs_of_nonneg (add_nonneg low some)]
    linarith)
  have both := abs_le.mp total
  have units : exact / 2 ^ 50 = 4 * (exact / 2 ^ 52) := by ring
  rw [mul_div_assoc] at both
  rw [units]
  exact abs_le.mpr ⟨by linarith, by linarith⟩

end Duration

end LiveFlags
