import LiveFlags.Decimal.Reading
import LiveFlags.Proofs.Decimal.Arithmetic

/-!
# Multiples of powers of ten

A whole multiple of a power of ten is made a double by rounding it once: the double that comes of it is the nearest
one, or infinity for a multiple that lies beyond them all (`Approximates`, `approximates_nearestFloat`). This holds of
the short way, by which few digits are multiplied with a power of ten that is a double itself, and of the long one,
and where the power alone tells that nothing or infinity remains. There is one such double
(`Approximates.unique`).
-/
namespace LiveFlags

open BinaryParts
open Float.Model (Format UnpackedFloat)
open Float.Model.UnpackedFloat

/-- What a fraction that is not negative is rounded to: the nearest double, with the even mantissa if two are nearest
and with no sign, or infinity from half a unit beyond the greatest double on. -/
inductive Approximates (exact : ℚ) : Float → Prop
  /-- The nearest double. -/
  | finite {number : Float} {parts : BinaryParts} (bounded : exact < infinityBound)
      (same : BinaryParts.ofFloat? number = some parts) (unsigned : parts.negative = false)
      (nearest : parts.Nearest exact) : Approximates exact number
  /-- Infinity. -/
  | infinite (beyond : infinityBound ≤ exact) : Approximates exact (1.0 / 0.0)

namespace BinaryParts

/-- The parts of doubles that are not negative are told by what they stand for. -/
theorem eq_of_value_eq {left right : BinaryParts} (canonicalLeft : left.Canonical) (canonicalRight : right.Canonical)
    (unsignedLeft : left.negative = false) (unsignedRight : right.negative = false) (same : left.value = right.value) :
    left.mantissa = right.mantissa ∧ left.exponent = right.exponent := by
  rw [value_of_nonneg unsignedLeft, value_of_nonneg unsignedRight] at same
  have exponents : left.exponent = right.exponent := by
    rcases lt_trichotomy left.exponent right.exponent with less | equal | greater
    · exact absurd same (mantissa_mul_lt_of_exponent_lt canonicalLeft canonicalRight less).ne
    · exact equal
    · exact absurd same (mantissa_mul_lt_of_exponent_lt canonicalRight canonicalLeft greater).ne'
  rw [exponents] at same
  have mantissas := mul_right_cancel₀ (zpow_ne_zero _ two_ne_zero) same
  exact ⟨by exact_mod_cast mantissas, exponents⟩

/-- A double is told by its sign, its mantissa and its exponent. -/
theorem eq_of_ofFloat? {number number' : Float} {parts parts' : BinaryParts} (same : ofFloat? number = some parts)
    (same' : ofFloat? number' = some parts') (signs : parts.negative = parts'.negative)
    (mantissas : parts.mantissa = parts'.mantissa) (exponents : parts.exponent = parts'.exponent) :
    number = number' := by
  have bits : number.toBits.toNat = number'.toBits.toNat := by
    have word := number.toBits.toNat_lt
    have word' := number'.toBits.toNat_lt
    unfold ofFloat? at same same'
    dsimp only at same same'
    generalize number.toBits.toNat = first at *
    generalize number'.toBits.toNat = second at *
    split at same
    · contradiction
    split at same'
    · contradiction
    split at same
    all_goals
      obtain rfl := Option.some.inj same
      split at same'
      all_goals
        obtain rfl := Option.some.inj same'
        dsimp only at signs mantissas exponents
        have high := decide_eq_decide.mp signs
        omega
  obtain ⟨⟨first, valid⟩⟩ := number
  obtain ⟨⟨second, valid'⟩⟩ := number'
  have words : first = second := UInt64.toNat_inj.mp bits
  subst words
  rfl

end BinaryParts

namespace Approximates

variable {exact : ℚ} {number number' : Float}

/-- A fraction is rounded to one double. -/
theorem unique (first : Approximates exact number) (second : Approximates exact number') : number = number' := by
  cases first with
  | infinite beyond =>
    cases second with
    | infinite => rfl
    | finite bounded => exact absurd bounded (not_lt.mpr beyond)
  | finite bounded same unsigned nearest =>
    cases second with
    | infinite beyond => exact absurd bounded (not_lt.mpr beyond)
    | finite _ same' unsigned' nearest' =>
      have canonical := canonical_of_ofFloat? same
      have canonical' := canonical_of_ofFloat? same'
      have values := le_antisymm (nearest.mono canonical canonical' nearest' le_rfl)
        (nearest'.mono canonical' canonical nearest le_rfl)
      obtain ⟨mantissas, exponents⟩ := eq_of_value_eq canonical canonical' unsigned unsigned' values
      exact eq_of_ofFloat? same same' (unsigned.trans unsigned'.symm) mantissas exponents

/-- The least fraction of as few bits as a double has. -/
theorem representable_least : Representable (2 ^ (-1074 : ℤ)) :=
  ⟨1, -1074, by decide, le_rfl, by rw [Int.cast_one, one_mul]⟩

/-- The fractions of as few bits that are positive are no less. -/
theorem le_of_representable {fraction : ℚ} (few : Representable fraction) (positive : 0 < fraction) :
    2 ^ (-1074 : ℤ) ≤ fraction := by
  obtain ⟨mantissa, exponent, bits, least, rfl⟩ := few
  have unit : (0 : ℚ) < 2 ^ exponent := zpow_pos two_pos _
  have some : (0 : ℚ) < mantissa := pos_of_mul_pos_left positive unit.le
  have whole : 0 < mantissa := by exact_mod_cast some
  have one : (1 : ℚ) ≤ mantissa := by exact_mod_cast whole
  calc (2 : ℚ) ^ (-1074 : ℤ) ≤ 2 ^ exponent := zpow_le_zpow_right₀ one_le_two least
    _ ≤ mantissa * 2 ^ exponent := le_mul_of_one_le_left unit.le one

/-- A fraction up to half the least double is rounded to zero. -/
theorem zero_of_le (forward : 0 ≤ exact) (tiny : 2 * exact ≤ 2 ^ (-1074 : ℤ)) : Approximates exact 0.0 := by
  have read : ofFloat? 0.0 = some ⟨false, 0, -1074, false⟩ := by decide +kernel
  have nothing : BinaryParts.value ⟨false, 0, -1074, false⟩ = 0 := value_of_zero rfl
  have small : exact ≤ 2 ^ 1022 := by
    have one : (2 : ℚ) ^ (-1074 : ℤ) ≤ 1 := zpow_le_one_of_nonpos₀ one_le_two (by decide)
    have half : exact ≤ 1 := by linarith
    exact half.trans (one_le_pow₀ one_le_two)
  refine finite (lt_infinityBound small) read rfl ⟨fun other few => ?_, fun _ _ _ _ => rfl⟩
  rw [nothing, zero_sub, abs_neg, abs_of_nonneg forward]
  rcases le_or_gt other 0 with back | ahead
  · rw [abs_of_nonpos (by linarith)]
    linarith
  · have least := le_of_representable few ahead
    rw [abs_of_nonneg (by linarith)]
    linarith

end Approximates

/-- What a fraction is rounded to approximates it, unless the fraction is negative or too small. -/
theorem Rounds.approximates {exact : ℚ} {number : Float} (rounds : Rounds exact number)
    (least : 2 ^ (-1074 : ℤ) ≤ exact) (bounded : exact < infinityBound) : Approximates exact number := by
  obtain ⟨parts, same, nearest⟩ := rounds
  refine .finite bounded same ?_ nearest
  by_contra signed
  have negative : parts.value ≤ 0 := by
    rw [value_of_negative (by simpa using signed), neg_nonpos]
    exact mul_nonneg (Nat.cast_nonneg _) (zpow_pos two_pos _).le
  have positive : 2 ^ (-1074 : ℤ) ≤ parts.value := nearest.ge_of_ge Approximates.representable_least least
  exact absurd (positive.trans negative) (not_le.mpr (zpow_pos two_pos _))

/-- Rounding a mantissa whose last bits are known. -/
theorem approximates_roundWithAccuracy {mantissa : ℕ} {exponent : ℤ} {accuracy : Accuracy} {exact : ℚ}
    (known : Extends (.ofMantissaAndAccuracy mantissa accuracy) exact) (fine : 52 ≤ mantissa.log2 ∨ exponent ≤ -1074) :
    Approximates (exact * 2 ^ exponent)
      (.ofModel (.pack (roundWithAccuracy Format.binary64 .positive mantissa exponent accuracy))) := by
  rcases lt_or_ge (exact * 2 ^ exponent) infinityBound with bounded | beyond
  · obtain ⟨parts, same, signs, nearest⟩ := nearest_roundWithAccuracy .positive known fine bounded
    rw [signUnit, one_mul] at nearest
    exact .finite bounded same (by simpa using signs) nearest
  · have infinite : Float.ofModel (.pack (.infinity .positive)) = 1.0 / 0.0 := by decide +kernel
    rw [infinite_roundWithAccuracy .positive known fine beyond, infinite]
    exact .infinite beyond

section Scientific

variable {coefficient : ℕ} {exponent : ℤ}

/-- The long way to a multiple of a power of ten. -/
theorem approximates_modelOfScientific (some : 0 < coefficient) (least : -(2048 + (coefficient.log2 : ℤ)) ≤ exponent)
    (greatest : exponent ≤ 2048) :
    Approximates (coefficient * 10 ^ exponent) (.ofModel (.ofScientific coefficient exponent)) := by
  have low : ¬exponent < -((2 ^ Format.binary64.exponentBits : ℤ) + coefficient.log2) := by
    change ¬exponent < -((2 ^ 11 : ℤ) + coefficient.log2)
    omega
  have high : ¬exponent > 2 ^ Format.binary64.exponentBits := by
    change ¬exponent > 2 ^ 11
    omega
  unfold Float.Model.ofScientific UnpackedFloat.ofScientific
  rw [dif_neg some.ne', if_neg high, if_neg low]
  by_cases forward : 0 ≤ exponent
  · obtain ⟨tens, rfl⟩ := Int.eq_ofNat_of_zero_le forward
    rw [if_pos forward]
    have exact : (coefficient : ℚ) * (10 : ℚ) ^ (tens : ℤ) =
        ((coefficient <<< 53 * 10 ^ tens : ℕ) : ℚ) * 2 ^ (-53 + 0 : ℤ) := by
      rw [Nat.shiftLeft_eq, zpow_natCast, add_zero, zpow_neg]
      push_cast
      norm_num
      ring
    have fine : 52 ≤ (coefficient <<< 53 * 10 ^ tens).log2 := by
      have digits : 2 ^ 53 ≤ coefficient <<< 53 * 10 ^ tens := by
        rw [Nat.shiftLeft_eq]
        calc 2 ^ 53 ≤ coefficient * 2 ^ 53 := Nat.le_mul_of_pos_left _ some
          _ ≤ coefficient * 2 ^ 53 * 10 ^ tens := Nat.le_mul_of_pos_right _ (Nat.pow_pos (by decide))
      have positive : coefficient <<< 53 * 10 ^ tens ≠ 0 := by omega
      exact (Nat.le_succ 52).trans ((Nat.le_log2 positive).mpr digits)
    rw [exact]
    exact approximates_roundWithAccuracy (Extends.ofExact _) (.inl fine)
  · have back : exponent = -((-exponent).toNat : ℤ) := by omega
    rw [if_neg forward]
    obtain ⟨quotient, power, accuracy, exact, core, known, fine, same⟩ :=
      exists_divCore 0 0 some (Nat.pow_pos (show 0 < 10 by decide) : 0 < 10 ^ (-exponent).toNat)
    have ratio : (coefficient : ℚ) * 10 ^ exponent = exact * 2 ^ power := by
      rw [same, zpow_zero, mul_one, mul_one, back, zpow_neg, zpow_natCast, ← back]
      push_cast
      rw [div_eq_mul_inv]
    unfold UnpackedFloat.div
    dsimp only
    rw [core, ratio]
    exact approximates_roundWithAccuracy known fine

/-- The powers of ten that are doubles are in their table. -/
theorem valueOf_powersOfTen : ∀ tens : Fin 23, (Float.exactlyRepresentablePowersOfTen[tens]).isFinite = true ∧
    valueOf (Float.exactlyRepresentablePowersOfTen[tens]) = 10 ^ (tens : ℕ) := by
  decide +kernel

/-- The short way to a multiple of a power of ten. -/
theorem rounds_ofScientific {tens : ℕ} (few : coefficient < 9007199254740992) (short : tens ≤ 22) (negative : Bool) :
    Rounds (if negative then coefficient / 10 ^ tens else coefficient * 10 ^ tens)
      (Float.ofScientific coefficient negative tens) := by
  have word : coefficient.toUInt64.toNat = coefficient := Nat.mod_eq_of_lt (by omega)
  have rounds := rounds_toFloat_uint64 coefficient.toUInt64
  rw [word] at rounds
  have whole := rounds.eq_of_representable (representable_natCast few)
  have inside : tens < 23 := by omega
  obtain ⟨finite, power⟩ := valueOf_powersOfTen ⟨tens, inside⟩
  have computed : Float.ofScientific coefficient negative tens =
      if negative then coefficient.toUInt64.toFloat / Float.exactlyRepresentablePowersOfTen[(⟨tens, inside⟩ : Fin 23)]
      else coefficient.toUInt64.toFloat * Float.exactlyRepresentablePowersOfTen[(⟨tens, inside⟩ : Fin 23)] :=
    dif_pos ⟨few, short⟩
  generalize Float.exactlyRepresentablePowersOfTen[(⟨tens, inside⟩ : Fin 23)] = factor at finite power computed
  have unsigned : (0 : ℚ) ≤ coefficient := Nat.cast_nonneg _
  have small : (coefficient : ℚ) ≤ 2 ^ 53 := by exact_mod_cast few.le
  have some : (0 : ℚ) < 10 ^ tens := pow_pos (by norm_num) _
  have one : (1 : ℚ) ≤ 10 ^ tens := one_le_pow₀ (by norm_num)
  have tall : (10 : ℚ) ^ tens ≤ 10 ^ 22 := pow_le_pow_right₀ (by norm_num) short
  have product : (coefficient : ℚ) * 10 ^ tens ≤ 2 ^ 1022 := by
    have fewer : (2 : ℚ) ^ 53 * 10 ^ 22 ≤ 2 ^ 128 := by norm_num
    have more : (2 : ℚ) ^ 128 ≤ 2 ^ 1022 := pow_le_pow_right₀ one_le_two (by omega)
    exact (mul_le_mul small tall some.le (by positivity)).trans (fewer.trans more)
  have quotient : (coefficient : ℚ) / 10 ^ tens ≤ 2 ^ 1022 := by
    have less : (coefficient : ℚ) / 10 ^ tens ≤ coefficient := div_le_self unsigned one
    exact (less.trans (le_mul_of_one_le_right unsigned one)).trans product
  rw [computed]
  cases negative with
  | true =>
    have forward : 0 ≤ (coefficient : ℚ) / 10 ^ tens := div_nonneg unsigned some.le
    rw [if_pos rfl, if_pos rfl]
    rw [← abs_of_nonneg forward] at quotient
    rw [← power] at some
    rw [← whole, ← power] at quotient ⊢
    exact rounds_div rounds.isFinite finite some.ne' quotient
  | false =>
    have forward : 0 ≤ (coefficient : ℚ) * 10 ^ tens := mul_nonneg unsigned some.le
    rw [if_neg Bool.false_ne_true, if_neg Bool.false_ne_true]
    rw [← abs_of_nonneg forward] at product
    rw [← whole, ← power] at product ⊢
    exact rounds_mul rounds.isFinite finite product

/-- A multiple of a power of ten is rounded once. -/
theorem approximates_ofScientific (some : 0 < coefficient) (least : -(2048 + (coefficient.log2 : ℤ)) ≤ exponent)
    (greatest : exponent ≤ 2048) :
    Approximates (coefficient * 10 ^ exponent) (Float.ofScientific coefficient (exponent < 0) exponent.natAbs) := by
  by_cases short : coefficient < 9007199254740992 ∧ exponent.natAbs ≤ 22
  · obtain ⟨few, near⟩ := short
    have rounds := rounds_ofScientific few near (exponent < 0)
    have exact : (if decide (exponent < 0) = true then (coefficient : ℚ) / 10 ^ exponent.natAbs
        else coefficient * 10 ^ exponent.natAbs) = coefficient * 10 ^ exponent := by
      by_cases back : exponent < 0
      · have power : exponent = -(exponent.natAbs : ℤ) := by omega
        rw [if_pos (decide_eq_true back)]
        conv_rhs => rw [power, zpow_neg, zpow_natCast, ← div_eq_mul_inv]
      · have power : exponent = exponent.natAbs := by omega
        rw [if_neg (by simpa using back)]
        conv_rhs => rw [power, zpow_natCast]
    rw [exact] at rounds
    have ten : (1 : ℚ) ≤ 10 := by norm_num
    have one : (1 : ℚ) ≤ coefficient := by exact_mod_cast some
    have small : (coefficient : ℚ) ≤ 2 ^ 53 := by exact_mod_cast few.le
    have low : (10 : ℚ) ^ (-22 : ℤ) ≤ 10 ^ exponent := zpow_le_zpow_right₀ ten (by omega)
    have high : (10 : ℚ) ^ exponent ≤ 10 ^ (22 : ℤ) := zpow_le_zpow_right₀ ten (by omega)
    have unit : (0 : ℚ) < 10 ^ exponent := zpow_pos (by norm_num) _
    refine rounds.approximates ?_ ?_
    · calc (2 : ℚ) ^ (-1074 : ℤ) ≤ 2 ^ (-74 : ℤ) := zpow_le_zpow_right₀ one_le_two (by decide)
        _ ≤ 10 ^ (-22 : ℤ) := by norm_num
        _ ≤ 1 * 10 ^ exponent := by rwa [one_mul]
        _ ≤ coefficient * 10 ^ exponent := mul_le_mul_of_nonneg_right one unit.le
    · calc (coefficient : ℚ) * 10 ^ exponent ≤ 2 ^ 53 * 10 ^ (22 : ℤ) := mul_le_mul small high unit.le (by norm_num)
        _ < 2 ^ (128 : ℤ) := by norm_num
        _ ≤ 2 ^ (1023 : ℤ) := zpow_le_zpow_right₀ one_le_two (by decide)
        _ < infinityBound := infinityBound_mem.1
  · have computed : Float.ofScientific coefficient (exponent < 0) exponent.natAbs = .ofModel (.ofScientific coefficient
        (if decide (exponent < 0) = true then Int.negOfNat exponent.natAbs else Int.ofNat exponent.natAbs)) :=
      dif_neg short
    have same : (if decide (exponent < 0) = true then Int.negOfNat exponent.natAbs else Int.ofNat exponent.natAbs) =
        exponent := by
      rw [Int.negOfNat_eq, Int.ofNat_eq_natCast]
      simp only [decide_eq_true_iff]
      omega
    rw [computed, same]
    exact approximates_modelOfScientific some least greatest

/-- The number of digits tells the size of a number. -/
theorem pow_length_toDigits_le (some : 0 < coefficient) :
    10 ^ ((Nat.toDigits 10 coefficient).length - 1) ≤ coefficient ∧
      coefficient < 10 ^ (Nat.toDigits 10 coefficient).length := by
  have positive : 0 < (Nat.toDigits 10 coefficient).length := Nat.length_toDigits_pos
  refine ⟨?_, (Nat.length_toDigits_le_iff (by decide) positive).mp le_rfl⟩
  by_contra! less
  rcases Nat.eq_zero_or_pos ((Nat.toDigits 10 coefficient).length - 1) with one | more
  · rw [one] at less
    omega
  · have fewer := (Nat.length_toDigits_le_iff (by decide) more).mpr less
    omega

end Scientific

/-- The double nearest to a multiple of a power of ten is found. -/
theorem approximates_nearestFloat (coefficient : ℕ) (exponent : ℤ) :
    Approximates (coefficient * 10 ^ exponent) (nearestFloat coefficient exponent) := by
  unfold nearestFloat
  dsimp only
  by_cases none : coefficient = 0
  · rw [if_pos none, none, Nat.cast_zero, zero_mul]
    exact .zero_of_le le_rfl (by rw [mul_zero]; exact (zpow_pos two_pos _).le)
  rw [if_neg none]
  obtain ⟨least, most⟩ := pow_length_toDigits_le (Nat.pos_of_ne_zero none)
  have some : 0 < (Nat.toDigits 10 coefficient).length := Nat.length_toDigits_pos
  generalize (Nat.toDigits 10 coefficient).length = digits at *
  have ten : (1 : ℚ) ≤ 10 := by norm_num
  have unit : (0 : ℚ) < 10 ^ exponent := zpow_pos (by norm_num) _
  by_cases tiny : exponent + digits < -330
  · rw [if_pos tiny]
    refine .zero_of_le (by positivity) ?_
    have size : (coefficient : ℚ) * 10 ^ exponent ≤ 10 ^ (-331 : ℤ) := by
      calc (coefficient : ℚ) * 10 ^ exponent ≤ 10 ^ digits * 10 ^ exponent :=
            mul_le_mul_of_nonneg_right (by exact_mod_cast most.le) unit.le
        _ = 10 ^ (exponent + digits) := by rw [zpow_add₀ (by norm_num), zpow_natCast, mul_comm]
        _ ≤ 10 ^ (-331 : ℤ) := zpow_le_zpow_right₀ ten (by omega)
    have bits : (10 : ℚ) ^ (-331 : ℤ) ≤ 2 ^ (-1075 : ℤ) := by
      have whole : (2 : ℕ) ^ 1075 ≤ 10 ^ 331 := by decide +kernel
      rw [show (-331 : ℤ) = -(331 : ℕ) from rfl, show (-1075 : ℤ) = -(1075 : ℕ) from rfl, zpow_neg, zpow_neg,
        zpow_natCast, zpow_natCast]
      exact inv_anti₀ (pow_pos two_pos _) (by exact_mod_cast whole)
    rw [show (-1074 : ℤ) = -1075 + 1 from rfl, two_zpow_add_one]
    exact mul_le_mul_of_nonneg_left (size.trans bits) two_pos.le
  rw [if_neg tiny]
  by_cases huge : 310 < exponent + digits
  · rw [if_pos huge]
    refine .infinite (infinityBound_mem.2.le.trans ?_)
    have bits : (2 : ℚ) ^ (1024 : ℤ) ≤ 10 ^ (310 : ℤ) := by
      have whole : (2 : ℕ) ^ 1024 ≤ 10 ^ 310 := by decide +kernel
      exact_mod_cast whole
    calc (2 : ℚ) ^ (1024 : ℤ) ≤ 10 ^ (310 : ℤ) := bits
      _ ≤ 10 ^ (exponent + (digits - 1 : ℕ)) := zpow_le_zpow_right₀ ten (by omega)
      _ = 10 ^ (digits - 1) * 10 ^ exponent := by rw [zpow_add₀ (by norm_num), zpow_natCast, mul_comm]
      _ ≤ coefficient * 10 ^ exponent := mul_le_mul_of_nonneg_right (by exact_mod_cast least) unit.le
  rw [if_neg huge]
  have bits : digits - 1 ≤ coefficient.log2 :=
    (Nat.le_log2 none).mpr ((Nat.pow_le_pow_left (by decide) _).trans least)
  exact approximates_ofScientific (Nat.pos_of_ne_zero none) (by omega) (by omega)

end LiveFlags
