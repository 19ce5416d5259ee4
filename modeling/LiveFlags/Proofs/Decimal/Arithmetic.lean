import LiveFlags.Proofs.Decimal.Packing

/-!
# Arithmetic of doubles

A sum, a difference, a product or a quotient of finite doubles is the rounding of the exact one, as long as that is
no longer than `2 ^ 1022` (`rounds_add`, `rounds_sub`, `rounds_mul`, `rounds_div`), and so is a word that is made a
double (`rounds_toFloat_uint64`).
-/
namespace LiveFlags

open BinaryParts
open Float.Model (Format UnpackedFloat totalExponent)
open Float.Model.UnpackedFloat

namespace BinaryParts.StandsFor

variable {left right : UnpackedFloat} {first second : ℚ}

/-- The opposite stands for the opposite. -/
theorem neg (stands : StandsFor left first) : StandsFor left.neg (-first) := by
  cases stands with
  | zero sign =>
    rw [neg_zero]
    exact .zero (-sign)
  | finite canonical sign some =>
    rw [← neg_mul, ← signUnit_neg]
    exact .finite canonical (-sign) some

/-- A sum is rounded. -/
theorem add (stands : StandsFor left first) (stands' : StandsFor right second) (bounded : |first + second| ≤ 2 ^ 1022) :
    ∃ parts, ofFloat? (.ofModel (.pack (UnpackedFloat.add Format.binary64 left right))) = some parts ∧
      parts.Nearest (first + second) := by
  cases stands with
  | zero sign =>
    rw [zero_add]
    cases stands' with
    | zero sign' =>
      unfold UnpackedFloat.add
      dsimp only
      split <;> exact nearest_pack_zero _
    | finite canonical sign' some => exact nearest_pack_finite canonical sign' some
  | @finite one canonical sign some =>
    cases stands' with
    | zero =>
      rw [add_zero]
      exact nearest_pack_finite canonical sign some
    | @finite other canonical' sign' some' =>
      have exact : signUnit sign * (one.mantissa * 2 ^ one.exponent) +
          signUnit sign' * (other.mantissa * 2 ^ other.exponent) =
          ((sign.apply (decreaseExponent one.mantissa one.exponent (min one.exponent other.exponent)).1 +
            sign'.apply (decreaseExponent other.mantissa other.exponent
              (min one.exponent other.exponent)).1 : ℤ) : ℚ) * 2 ^ min one.exponent other.exponent := by
        rw [Int.cast_add, add_mul, apply_decreaseExponent _ _ (min_le_left _ _),
          apply_decreaseExponent _ _ (min_le_right _ _)]
      rw [exact] at bounded ⊢
      exact nearest_normalize (lt_infinityBound bounded)

/-- A product is rounded. -/
theorem mul (stands : StandsFor left first) (stands' : StandsFor right second) (bounded : |first * second| ≤ 2 ^ 1022) :
    ∃ parts, ofFloat? (.ofModel (.pack (UnpackedFloat.mul Format.binary64 left right))) = some parts ∧
      parts.Nearest (first * second) := by
  cases stands with
  | zero =>
    rw [zero_mul]
    cases stands' with
    | zero | finite => exact nearest_pack_zero _
  | @finite one canonical sign some =>
    cases stands' with
    | zero =>
      rw [mul_zero]
      exact nearest_pack_zero _
    | @finite other canonical' sign' some' =>
      have exact : signUnit sign * (one.mantissa * 2 ^ one.exponent) *
          (signUnit sign' * (other.mantissa * 2 ^ other.exponent)) = signUnit (sign * sign') *
            (((one.mantissa * other.mantissa : ℕ) : ℚ) * 2 ^ (one.exponent + other.exponent)) := by
        rw [signUnit_mul, zpow_add₀ two_ne_zero]
        push_cast
        ring
      have size : 0 ≤ ((one.mantissa * other.mantissa : ℕ) : ℚ) * 2 ^ (one.exponent + other.exponent) :=
        mul_nonneg (Nat.cast_nonneg _) (zpow_pos two_pos _).le
      have fine : 52 ≤ (one.mantissa * other.mantissa).log2 ∨ one.exponent + other.exponent ≤ -1074 := by
        have product : one.mantissa * other.mantissa ≠ 0 := Nat.mul_ne_zero some.ne' some'.ne'
        rcases canonical.full with full | bottom
        · exact .inl ((Nat.le_log2 product).mpr (full.trans (Nat.le_mul_of_pos_right _ some')))
        · rcases canonical'.full with full | bottom'
          · exact .inl ((Nat.le_log2 product).mpr (full.trans (Nat.le_mul_of_pos_left _ some)))
          · exact .inr (by omega)
      rw [exact] at bounded ⊢
      rw [abs_mul, abs_signUnit, one_mul, abs_of_nonneg size] at bounded
      obtain ⟨parts, read, _, nearest⟩ :=
        nearest_roundWithAccuracy (sign * sign') (Extends.ofExact _) fine (lt_infinityBound bounded)
      exact ⟨parts, read, nearest⟩

/-- A quotient is rounded. -/
theorem div (stands : StandsFor left first) (stands' : StandsFor right second) (divides : second ≠ 0)
    (bounded : |first / second| ≤ 2 ^ 1022) :
    ∃ parts, ofFloat? (.ofModel (.pack (UnpackedFloat.div Format.binary64 left right))) = some parts ∧
      parts.Nearest (first / second) := by
  cases stands' with
  | zero => exact absurd rfl divides
  | @finite other canonical' sign' some' =>
    cases stands with
    | zero =>
      rw [zero_div]
      exact nearest_pack_zero _
    | @finite one canonical sign some =>
      obtain ⟨mantissa, power, accuracy, ratio, core, known, fine, same⟩ :=
        exists_divCore one.exponent other.exponent some some'
      have exact : signUnit sign * (one.mantissa * 2 ^ one.exponent) /
          (signUnit sign' * (other.mantissa * 2 ^ other.exponent)) = signUnit (sign / sign') * (ratio * 2 ^ power) := by
        rw [signUnit_div, same, mul_div_mul_comm]
      have size : 0 ≤ ratio * 2 ^ power := by
        have power : ∀ exponent : ℤ, (0 : ℚ) ≤ 2 ^ exponent := fun exponent => (zpow_pos two_pos exponent).le
        rw [same]
        exact div_nonneg (mul_nonneg (Nat.cast_nonneg _) (power _)) (mul_nonneg (Nat.cast_nonneg _) (power _))
      rw [exact] at bounded ⊢
      rw [abs_mul, abs_signUnit, one_mul, abs_of_nonneg size] at bounded
      unfold UnpackedFloat.div
      dsimp only
      rw [core]
      obtain ⟨parts, read, _, nearest⟩ :=
        nearest_roundWithAccuracy (sign / sign') known fine (lt_infinityBound bounded)
      exact ⟨parts, read, nearest⟩

end BinaryParts.StandsFor

/-- To subtract is to add the opposite. -/
theorem unpacked_sub_eq_add_neg (left right : UnpackedFloat) :
    UnpackedFloat.sub Format.binary64 left right = UnpackedFloat.add Format.binary64 left right.neg := by
  have opposite : ∀ (sign : Sign) (whole : ℤ), (-sign).apply whole = -sign.apply whole := by
    intro sign whole
    cases sign with
    | positive => rfl
    | negative => exact (neg_neg whole).symm
  cases left with
  | notANumber => rfl
  | infinity | zero => cases right <;> rfl
  | finite sign mantissa exponent some =>
    cases right with
    | notANumber | infinity | zero => rfl
    | finite sign' mantissa' exponent' some' =>
      unfold UnpackedFloat.sub UnpackedFloat.add UnpackedFloat.neg
      dsimp only
      rw [opposite, sub_eq_add_neg]

section Operations

variable {left right : Float} (finiteLeft : left.isFinite = true) (finiteRight : right.isFinite = true)

include finiteLeft finiteRight

/-- Doubles are multiplied by rounding the product. -/
theorem rounds_mul (bounded : |valueOf left * valueOf right| ≤ 2 ^ 1022) :
    Rounds (valueOf left * valueOf right) (left * right) :=
  (standsFor_valueOf finiteLeft).mul (standsFor_valueOf finiteRight) bounded

/-- Doubles are added by rounding the sum. -/
theorem rounds_add (bounded : |valueOf left + valueOf right| ≤ 2 ^ 1022) :
    Rounds (valueOf left + valueOf right) (left + right) :=
  (standsFor_valueOf finiteLeft).add (standsFor_valueOf finiteRight) bounded

/-- Doubles are subtracted by rounding the difference. -/
theorem rounds_sub (bounded : |valueOf left - valueOf right| ≤ 2 ^ 1022) :
    Rounds (valueOf left - valueOf right) (left - right) := by
  rw [sub_eq_add_neg] at bounded ⊢
  have sum := (standsFor_valueOf finiteLeft).add (standsFor_valueOf finiteRight).neg bounded
  rw [← unpacked_sub_eq_add_neg] at sum
  exact sum

/-- Doubles are divided by rounding the quotient. -/
theorem rounds_div (divides : valueOf right ≠ 0) (bounded : |valueOf left / valueOf right| ≤ 2 ^ 1022) :
    Rounds (valueOf left / valueOf right) (left / right) :=
  (standsFor_valueOf finiteLeft).div (standsFor_valueOf finiteRight) divides bounded

end Operations

/-- Whole numbers that a word can hold are small for doubles. -/
theorem two_pow_le_two_pow : (2 : ℚ) ^ 64 ≤ 2 ^ 1022 := pow_le_pow_right₀ one_le_two (by decide)

/-- A small whole number is made a double by rounding. -/
theorem rounds_pack_ofNat {whole : ℕ} (small : whole ≤ 2 ^ 64) :
    Rounds whole (.ofModel (.pack (UnpackedFloat.ofNat Format.binary64 whole))) := by
  have few : (whole : ℚ) ≤ 2 ^ 64 := by exact_mod_cast small
  have bounded : |((whole : ℤ) : ℚ) * 2 ^ (0 : ℤ)| < infinityBound := by
    rw [zpow_zero, mul_one, Int.cast_natCast, Nat.abs_cast]
    exact lt_infinityBound (few.trans two_pow_le_two_pow)
  have rounds := nearest_normalize bounded
  rw [zpow_zero, mul_one, Int.cast_natCast] at rounds
  exact rounds

/-- A word is made a double by rounding. -/
theorem rounds_toFloat_uint64 (word : UInt64) : Rounds word.toNat word.toFloat :=
  rounds_pack_ofNat word.toNat_lt.le

/-- So is half a word. -/
theorem rounds_toFloat_uint32 (word : UInt32) : Rounds word.toNat word.toFloat :=
  rounds_pack_ofNat (word.toNat_lt.le.trans (by decide))

end LiveFlags
