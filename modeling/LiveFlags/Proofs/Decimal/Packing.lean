import LiveFlags.Proofs.Decimal.Rounding

/-!
# Packing doubles

The operations on doubles compute a mantissa of which the next bit is known and whether anything comes after it
(`Extends`), and they end in rounding it and in packing what comes of that. If the fraction that is extended to lies
below half a unit beyond the greatest double, this makes the nearest double (`nearest_roundWithAccuracy`), and from
there on it makes an infinity (`infinite_roundWithAccuracy`).
-/
namespace LiveFlags.BinaryParts

open Float.Model (Format UnpackedFloat totalExponent)
open Float.Model.UnpackedFloat

/-- The bits of a double are its sign, its exponent and its mantissa. -/
theorem toNat_packComponents (sign : Sign) (exponent : BitVec 11) (mantissa : BitVec 52) :
    (packComponents Format.binary64 sign exponent mantissa).toNat =
      sign.toBitVec.toNat * 9223372036854775808 + exponent.toNat * 4503599627370496 + mantissa.toNat := by
  have few := mantissa.isLt
  have small := exponent.isLt
  change ((sign.toBitVec ++ exponent) ++ mantissa).toNat = _
  rw [BitVec.toNat_append, ← Nat.shiftLeft_add_eq_or_of_lt few, BitVec.toNat_append,
    ← Nat.shiftLeft_add_eq_or_of_lt small, Nat.shiftLeft_eq, Nat.shiftLeft_eq]
  omega

/-- What has been packed is read back. -/
theorem ofFloat?_pack (number : UnpackedFloat) {sign : Sign} {exponent : BitVec 11} {mantissa : BitVec 52}
    (packed : Float.Model.UnpackedFloat.pack Format.binary64 number =
      packComponents Format.binary64 sign exponent mantissa) (inside : exponent.toNat < 2047) :
    ∃ parts, ofFloat? (.ofModel (.pack number)) = some parts ∧ (parts.negative = true ↔ sign = .negative) ∧
      parts.mantissa = (if exponent.toNat = 0 then mantissa.toNat else 4503599627370496 + mantissa.toNat) ∧
      parts.exponent = (if exponent.toNat = 0 then -1074 else (exponent.toNat : ℤ) - 1075) := by
  have bits : (Float.ofModel (.pack number)).toBits.toNat =
      sign.toBitVec.toNat * 9223372036854775808 + exponent.toNat * 4503599627370496 + mantissa.toNat := by
    rw [← toNat_packComponents, ← packed]
    rfl
  have few := mantissa.isLt
  have field : (sign.toBitVec.toNat * 9223372036854775808 + exponent.toNat * 4503599627370496 +
      mantissa.toNat) / 4503599627370496 % 2048 = exponent.toNat := by omega
  have rest : (sign.toBitVec.toNat * 9223372036854775808 + exponent.toNat * 4503599627370496 +
      mantissa.toNat) % 4503599627370496 = mantissa.toNat := by omega
  have signs : 9223372036854775808 ≤ sign.toBitVec.toNat * 9223372036854775808 +
      exponent.toNat * 4503599627370496 + mantissa.toNat ↔ sign = .negative := by
    cases sign with
    | negative => exact iff_of_true (Nat.le_add_right_of_le (Nat.le_add_right _ _)) rfl
    | positive =>
      have none : (Sign.positive.toBitVec).toNat = 0 := rfl
      exact iff_of_false (by omega) (by simp)
  unfold ofFloat?
  dsimp only
  rw [bits, field, rest, if_neg (by omega)]
  split
  · exact ⟨_, rfl, by rw [decide_eq_true_iff, signs], rfl, rfl⟩
  · exact ⟨_, rfl, by rw [decide_eq_true_iff, signs], rfl, rfl⟩

/-- A zero is packed as a zero. -/
theorem ofFloat?_pack_zero (sign : Sign) :
    ∃ parts, ofFloat? (.ofModel (.pack (.zero sign))) = some parts ∧ (parts.negative = true ↔ sign = .negative) ∧
      parts.mantissa = 0 := by
  obtain ⟨parts, same, signs, none, _⟩ := @ofFloat?_pack (.zero sign) sign 0#11 0#52 rfl (by decide)
  exact ⟨parts, same, signs, none⟩

/-- A number of as many bits as a double has is packed as it is. -/
theorem ofFloat?_pack_finite (sign : Sign) {mantissa : ℕ} {exponent : ℤ} (some : 0 < mantissa)
    (few : mantissa < 9007199254740992) (least : -1074 ≤ exponent) (greatest : exponent ≤ 971)
    (full : 4503599627370496 ≤ mantissa ∨ exponent = -1074) :
    ∃ parts, ofFloat? (.ofModel (.pack (.finite sign mantissa exponent some))) = Option.some parts ∧
      (parts.negative = true ↔ sign = .negative) ∧ parts.mantissa = mantissa ∧ parts.exponent = exponent := by
  have biased : (exponent + Format.binary64.exponentBias + Format.binary64.mantissaBitsWithoutImplicit).toNat =
      (exponent + 1075).toNat := by
    change (exponent + 1023 + 52).toNat = _
    omega
  by_cases normal : 4503599627370496 ≤ mantissa
  · have bits : mantissa.log2 + 1 = Format.binary64.mantissaBits :=
      congrArg (· + 1) ((Nat.log2_eq_iff some.ne').mpr ⟨normal, few⟩)
    have packed : Float.Model.UnpackedFloat.pack Format.binary64 (.finite sign mantissa exponent some) =
        packComponents Format.binary64 sign (BitVec.ofNat 11 (exponent + 1075).toNat) (BitVec.ofNat 52 mantissa) := by
      unfold Float.Model.UnpackedFloat.pack
      dsimp only
      rw [biased, if_neg (by omega), if_pos bits]
    have field : (BitVec.ofNat 11 (exponent + 1075).toNat).toNat = (exponent + 1075).toNat := by
      rw [BitVec.toNat_ofNat, Nat.mod_eq_of_lt (by omega)]
    have rest : (BitVec.ofNat 52 mantissa).toNat = mantissa - 4503599627370496 := by
      rw [BitVec.toNat_ofNat]
      omega
    obtain ⟨parts, same, signs, read, power⟩ := ofFloat?_pack _ packed (by omega)
    rw [field, if_neg (by omega)] at read power
    exact ⟨parts, same, signs, by omega, by omega⟩
  · have bottom := full.resolve_left normal
    have bits : mantissa.log2 + 1 ≠ Format.binary64.mantissaBits := by
      have less : mantissa.log2 < 52 := (Nat.log2_lt some.ne').mpr (by omega)
      change _ ≠ 1 + 52
      omega
    have packed : Float.Model.UnpackedFloat.pack Format.binary64 (.finite sign mantissa exponent some) =
        packComponents Format.binary64 sign 0#11 (BitVec.ofNat 52 mantissa) := by
      unfold Float.Model.UnpackedFloat.pack
      dsimp only
      rw [biased, if_neg (by omega), if_neg bits]
    have rest : (BitVec.ofNat 52 mantissa).toNat = mantissa := by
      rw [BitVec.toNat_ofNat]
      omega
    obtain ⟨parts, same, signs, read, power⟩ := ofFloat?_pack _ packed (by decide)
    rw [BitVec.toNat_zero, if_pos rfl] at read power
    exact ⟨parts, same, signs, read.trans rest, power.trans bottom.symm⟩

/-- What a mantissa and the two bits after it say about a fraction. -/
def Extends (extended : ExtendedMantissa) (exact : ℚ) : Prop :=
  match extended.roundBit, extended.stickyBit with
  | false, false => exact = extended.mantissa
  | false, true => (extended.mantissa : ℚ) < exact ∧ exact < extended.mantissa + 1 / 2
  | true, false => exact = extended.mantissa + 1 / 2
  | true, true => (extended.mantissa : ℚ) + 1 / 2 < exact ∧ exact < extended.mantissa + 1

namespace Extends

variable {extended : ExtendedMantissa} {exact : ℚ}

/-- A mantissa extends itself. -/
theorem ofExact (mantissa : ℕ) : Extends (.ofMantissaAndAccuracy mantissa .exact) mantissa := rfl

/-- The mantissa is the whole part of what it extends to. -/
theorem floor (known : Extends extended exact) :
    (extended.mantissa : ℚ) ≤ exact ∧ exact < extended.mantissa + 1 := by
  obtain ⟨mantissa, half, rest⟩ := extended
  cases half <;> cases rest <;> dsimp only [Extends] at known <;> constructor <;> linarith

/-- The two bits after a mantissa suffice to round it. -/
theorem roundsTo (known : Extends extended exact) : RoundsTo exact extended.roundedMantissa := by
  obtain ⟨mantissa, half, rest⟩ := extended
  cases half <;> cases rest <;> dsimp only [Extends] at known
  case false.false =>
    change RoundsTo exact mantissa
    rw [known]
    constructor
    · simp
    · simp
  case false.true =>
    change RoundsTo exact mantissa
    have near : |(mantissa : ℚ) - exact| < 1 / 2 := abs_lt.mpr ⟨by linarith, by linarith⟩
    exact ⟨near.le, fun level => absurd level near.ne⟩
  case true.false =>
    change RoundsTo exact (mantissa + mantissa % 2)
    have bit : mantissa % 2 = 0 ∨ mantissa % 2 = 1 := by omega
    refine ⟨?_, fun _ => by omega⟩
    rw [known]
    rcases bit with none | one
    · rw [none]
      exact abs_le.mpr ⟨by push_cast; linarith, by push_cast; linarith⟩
    · rw [one]
      exact abs_le.mpr ⟨by push_cast; linarith, by push_cast; linarith⟩
  case true.true =>
    change RoundsTo exact (mantissa + 1)
    have near : |((mantissa + 1 : ℕ) : ℚ) - exact| < 1 / 2 :=
      abs_lt.mpr ⟨by push_cast; linarith, by push_cast; linarith⟩
    exact ⟨near.le, fun level => absurd level near.ne⟩

/-- Dropping the last bit halves what a mantissa extends to. -/
theorem shiftRightOne (known : Extends extended exact) : Extends extended.shiftRightOne (exact / 2) := by
  obtain ⟨mantissa, half, rest⟩ := extended
  have parts : (2 : ℚ) * (mantissa / 2 : ℕ) + (mantissa % 2 : ℕ) = mantissa := by
    exact_mod_cast Nat.div_add_mod mantissa 2
  have bit : mantissa % 2 = 0 ∨ mantissa % 2 = 1 := by omega
  rcases bit with none | one
  · have shifted : (ExtendedMantissa.mk mantissa half rest).shiftRightOne = ⟨mantissa / 2, false, half || rest⟩ := by
      rw [ExtendedMantissa.shiftRightOne, none]
      rfl
    rw [shifted]
    rw [none] at parts
    cases half <;> cases rest <;> dsimp only [Extends, Bool.or] at known ⊢ <;> push_cast at parts
    · linarith
    all_goals constructor <;> linarith
  · have shifted : (ExtendedMantissa.mk mantissa half rest).shiftRightOne = ⟨mantissa / 2, true, half || rest⟩ := by
      rw [ExtendedMantissa.shiftRightOne, one]
      rfl
    rw [shifted]
    rw [one] at parts
    cases half <;> cases rest <;> dsimp only [Extends, Bool.or] at known ⊢ <;> push_cast at parts
    · linarith
    all_goals constructor <;> linarith

/-- Dropping bits divides what a mantissa extends to. -/
theorem shiftRight (known : Extends extended exact) (bits : ℕ) : Extends (extended >>> bits) (exact / 2 ^ bits) := by
  change Extends (bits.repeat ExtendedMantissa.shiftRightOne extended) _
  induction bits with
  | zero => rwa [pow_zero, div_one]
  | succ bits ih =>
    rw [pow_succ, ← div_div]
    exact ih.shiftRightOne

end Extends

/-- Whoever rounds the size of a fraction rounds the fraction. -/
theorem nearest_of_size {parts : BinaryParts} {sign : Sign} {exact : ℚ} (size : ℚ)
    (same : parts.value = signUnit sign * size)
    (rounds : ∀ other, Representable other → |size - exact| ≤ |other - exact| ∧
      (|other - exact| = |size - exact| → other ≠ size → parts.mantissa % 2 = 0)) :
    parts.Nearest (signUnit sign * exact) := by
  cases sign with
  | positive =>
    rw [signUnit, one_mul] at same ⊢
    rw [← same] at rounds
    exact ⟨fun other few => (rounds other few).1, fun other few => (rounds other few).2⟩
  | negative =>
    rw [signUnit, neg_one_mul] at same ⊢
    have turned : ∀ other : ℚ, |-other - -exact| = |other - exact| := by
      intro other
      rw [← abs_neg]
      congr 1
      ring
    constructor
    · intro other few
      rw [same, turned, ← neg_neg other, turned]
      exact (rounds _ few.neg).1
    · intro other few level differs
      rw [same, turned, ← neg_neg other, turned] at level
      exact (rounds _ few.neg).2 level (fun equal => differs (by rw [same, ← equal, neg_neg]))

/-- The power of two that a double of a given size is a multiple of. -/
theorem targetExponent_eq (mantissa : ℕ) (exponent : ℤ) :
    Format.binary64.targetExponent (totalExponent mantissa exponent) = max (mantissa.log2 + exponent - 52) (-1074) := by
  have least : Format.binary64.minExponent = -1074 := rfl
  have bits : (Format.binary64.mantissaBits : ℤ) = 53 := rfl
  rw [Format.targetExponent, totalExponent, least, bits]
  omega

/-- Once its last bits have been dropped a mantissa is rounded, and if that takes a bit more one more is dropped. -/
theorem roundWithAccuracy_eq (sign : Sign) {mantissa bits rounded : ℕ} {exponent : ℤ} {accuracy : Accuracy}
    (dropped : (max (mantissa.log2 + exponent - 52) (-1074) - exponent).toNat = bits)
    (same : (ExtendedMantissa.ofMantissaAndAccuracy mantissa accuracy >>> bits).roundedMantissa = rounded)
    (few : rounded ≤ 9007199254740992) (least : -1074 ≤ exponent + bits) :
    roundWithAccuracy Format.binary64 sign mantissa exponent accuracy =
      if none : rounded = 0 then .zero sign
      else if rounded < 9007199254740992 then .finite sign rounded (exponent + bits) (Nat.pos_of_ne_zero none)
      else .finite sign 4503599627370496 (exponent + bits + 1) (by decide) := by
  have shifted : ∀ (again : ℕ) (power : ℤ) (known : Accuracy),
      shiftToTargetExponent Format.binary64 again power known =
        (ExtendedMantissa.ofMantissaAndAccuracy again known >>>
            (max (again.log2 + power - 52) (-1074) - power).toNat,
          power + (max (again.log2 + power - 52) (-1074) - power).toNat) := by
    intro again power known
    rw [shiftToTargetExponent, targetExponent_eq]
    rfl
  unfold roundWithAccuracy
  rw [shifted, dropped]
  dsimp only
  rw [same, shifted]
  dsimp only
  by_cases below : rounded < 9007199254740992
  · have size : rounded.log2 ≤ 52 := by
      by_cases none : rounded = 0
      · rw [none]
        decide
      · have less : rounded.log2 < 53 := (Nat.log2_lt none).mpr below
        omega
    have nothing : (max (rounded.log2 + (exponent + bits) - 52) (-1074) - (exponent + bits)).toNat = 0 := by omega
    rw [nothing]
    change (if h : rounded = 0 then _ else UnpackedFloat.finite sign rounded (exponent + bits + 0) _) = _
    rw [add_zero]
    by_cases none : rounded = 0
    · rw [dif_pos none, dif_pos none]
    · rw [dif_neg none, dif_neg none, if_pos below]
  · have all : rounded = 9007199254740992 := by omega
    have size : (9007199254740992 : ℕ).log2 = 53 := by decide +kernel
    have one : (max ((9007199254740992 : ℕ).log2 + (exponent + bits) - 52) (-1074) - (exponent + bits)).toNat = 1 := by
      rw [size]
      omega
    subst all
    rw [one]
    rfl

/-- What a fraction comes to when its last bits are dropped: it is rounded to a whole multiple of a power of two, and
the power is the least one or the multiple has as many bits as a double. -/
structure Shortened (exact : ℚ) (exponent : ℤ) (bits rounded : ℕ) : Prop where
  /-- The fraction is rounded to the multiple. -/
  rounds : RoundsTo (exact / 2 ^ bits) rounded
  /-- It has no more bits before the point than a double has. -/
  short : exact / 2 ^ bits < 9007199254740992
  /-- It has as many, or the power is the least one. -/
  full : 4503599627370496 ≤ exact / 2 ^ bits ∨ exponent + bits = -1074
  /-- No power is less. -/
  least : -1074 ≤ exponent + bits

namespace Shortened

variable {exact : ℚ} {exponent : ℤ} {bits rounded : ℕ} (shortened : Shortened exact exponent bits rounded)

include shortened

/-- The multiple has the bits of a double, or it is the next power of two. -/
theorem few : rounded ≤ 9007199254740992 := by
  have near := (abs_le.mp shortened.rounds.nearest).2
  have short := shortened.short
  have less : (rounded : ℚ) < (9007199254740992 + 1 : ℕ) := by
    push_cast
    linarith
  exact Nat.lt_succ_iff.mp (by exact_mod_cast less)

/-- The multiple has no fewer bits than a double, unless the power is the least one. -/
theorem many : 4503599627370496 ≤ rounded ∨ exponent + (bits : ℤ) = -1074 := by
  refine shortened.full.imp_left fun full => ?_
  have even : RoundsTo (4503599627370496 : ℕ) 4503599627370496 := ⟨by simp, fun _ => by decide⟩
  exact even.mono shortened.rounds (by exact_mod_cast full)

/-- A fraction that is not below the greatest of its multiples is rounded to the next power of two. -/
theorem eq_of_le (large : 9007199254740991 + 1 / 2 ≤ exact / 2 ^ bits) : rounded = 9007199254740992 := by
  have few := shortened.few
  have near := (abs_le.mp shortened.rounds.nearest).1
  have many : 9007199254740991 ≤ rounded := by
    have most : (9007199254740991 : ℚ) ≤ rounded := by linarith
    exact_mod_cast most
  by_contra differs
  have odd : rounded = 9007199254740991 := by omega
  have tie : |(rounded : ℚ) - exact / 2 ^ bits| = 1 / 2 := by
    rw [odd] at near ⊢
    push_cast at near ⊢
    rw [abs_of_nonpos (by linarith)]
    linarith
  have even := shortened.rounds.even tie
  omega

end Shortened

/-- A fraction as long as this is rounded to an infinity: it lies half a unit beyond the greatest double. -/
def infinityBound : ℚ := 2 ^ 1024 - 2 ^ 970

/-- The bound in units of the last bit of the greatest double. -/
theorem infinityBound_eq : infinityBound = (9007199254740991 + 1 / 2) * 2 ^ (971 : ℤ) := by
  have most : (2 : ℚ) ^ 1024 = 18014398509481984 * 2 ^ 970 := by
    rw [show 1024 = 54 + 970 from rfl, pow_add]
    norm_num
  have units : (2 : ℚ) ^ (971 : ℤ) = 2 * 2 ^ 970 := by
    rw [show (971 : ℤ) = ((970 + 1 : ℕ) : ℤ) from rfl, zpow_natCast, pow_succ']
  rw [infinityBound, most, units]
  generalize (2 : ℚ) ^ 970 = unit
  ring

/-- The bound lies between the two powers of two around the greatest double. -/
theorem infinityBound_mem : 2 ^ (1023 : ℤ) < infinityBound ∧ infinityBound < 2 ^ (1024 : ℤ) := by
  have unit : (0 : ℚ) < 2 ^ (971 : ℤ) := zpow_pos two_pos _
  rw [infinityBound_eq, show (1023 : ℤ) = 52 + 971 from rfl, show (1024 : ℤ) = 53 + 971 from rfl,
    zpow_add₀ two_ne_zero, zpow_add₀ two_ne_zero]
  constructor
  · exact mul_lt_mul_of_pos_right (by norm_num) unit
  · exact mul_lt_mul_of_pos_right (by norm_num) unit

/-- Fractions with a bit less than the greatest double are bounded. -/
theorem lt_infinityBound {size : ℚ} (short : size ≤ 2 ^ 1022) : size < infinityBound := by
  have less : (2 : ℚ) ^ 1022 ≤ 2 ^ (1023 : ℤ) := by
    rw [show (1023 : ℤ) = ((1022 + 1 : ℕ) : ℤ) from rfl, zpow_natCast]
    exact pow_le_pow_right₀ one_le_two (Nat.le_succ _)
  exact (short.trans less).trans_lt infinityBound_mem.1

section Rounding

variable {mantissa : ℕ} {exponent : ℤ} {accuracy : Accuracy} {exact : ℚ}

/-- The fraction in units of the power of two that it is rounded to. -/
theorem scaled_eq (exact : ℚ) (exponent : ℤ) (bits : ℕ) :
    exact * 2 ^ exponent / 2 ^ (exponent + bits) = exact / 2 ^ bits := by
  rw [zpow_add₀ two_ne_zero, zpow_natCast, mul_comm exact, mul_div_mul_left _ _ (zpow_ne_zero _ two_ne_zero)]

/-- A mantissa whose last bits are known is rounded by dropping the bits that a double does not have. -/
theorem exists_shortened (sign : Sign) (known : Extends (.ofMantissaAndAccuracy mantissa accuracy) exact)
    (fine : 52 ≤ mantissa.log2 ∨ exponent ≤ -1074) :
    ∃ bits rounded : ℕ, Shortened exact exponent bits rounded ∧
      roundWithAccuracy Format.binary64 sign mantissa exponent accuracy =
        if none : rounded = 0 then .zero sign
        else if rounded < 9007199254740992 then .finite sign rounded (exponent + bits) (Nat.pos_of_ne_zero none)
        else .finite sign 4503599627370496 (exponent + bits + 1) (by decide) := by
  obtain ⟨bits, dropped⟩ : ∃ bits : ℕ, max (mantissa.log2 + exponent - 52) (-1074) = exponent + bits :=
    ⟨(max (mantissa.log2 + exponent - 52) (-1074) - exponent).toNat, by omega⟩
  have unit : (0 : ℚ) < 2 ^ bits := pow_pos two_pos _
  have inner : (ExtendedMantissa.ofMantissaAndAccuracy mantissa accuracy).mantissa = mantissa := by
    unfold ExtendedMantissa.ofMantissaAndAccuracy
    split <;> rfl
  obtain ⟨low, high⟩ := known.floor
  rw [inner] at low high
  have rounds := (known.shiftRight bits).roundsTo
  -- a fraction with more bits than a double can hold is a multiple of a greater power of two
  have short : exact / 2 ^ bits < 9007199254740992 := by
    rw [div_lt_iff₀ unit]
    have digits : mantissa + 1 ≤ 2 ^ (mantissa.log2 + 1) := Nat.lt_log2_self
    have more : 2 ^ (mantissa.log2 + 1) ≤ 2 ^ (53 + bits) := Nat.pow_le_pow_right (by decide) (by omega)
    rw [Nat.pow_add 2 53] at more
    have whole : ((mantissa + 1 : ℕ) : ℚ) ≤ 9007199254740992 * 2 ^ bits := by exact_mod_cast digits.trans more
    push_cast at whole
    linarith
  have full : 4503599627370496 ≤ exact / 2 ^ bits ∨ exponent + bits = -1074 := by
    by_cases bottom : exponent + (bits : ℤ) = -1074
    · exact .inr bottom
    · left
      rw [le_div_iff₀ unit]
      have size : mantissa.log2 = 52 + bits := by omega
      have some : mantissa ≠ 0 := by
        rintro rfl
        rw [Nat.log2_zero] at size
        omega
      have digits := Nat.log2_self_le some
      rw [size, Nat.pow_add] at digits
      have whole : (4503599627370496 * 2 ^ bits : ℚ) ≤ mantissa := by exact_mod_cast digits
      linarith
  have shortened : Shortened exact exponent bits _ := ⟨rounds, short, full, by omega⟩
  exact ⟨bits, _, shortened, roundWithAccuracy_eq sign (by omega) rfl shortened.few (by omega)⟩

/-- Rounding a mantissa whose last bits are known makes a double that is nearest, and it keeps the sign. -/
theorem nearest_roundWithAccuracy (sign : Sign) (known : Extends (.ofMantissaAndAccuracy mantissa accuracy) exact)
    (fine : 52 ≤ mantissa.log2 ∨ exponent ≤ -1074) (bounded : exact * 2 ^ exponent < infinityBound) :
    ∃ parts, ofFloat? (.ofModel (.pack (roundWithAccuracy Format.binary64 sign mantissa exponent accuracy))) =
        some parts ∧ (parts.negative = true ↔ sign = .negative) ∧
          parts.Nearest (signUnit sign * (exact * 2 ^ exponent)) := by
  obtain ⟨bits, rounded, shortened, rounding⟩ := exists_shortened sign known fine
  have few := shortened.few
  have least := shortened.least
  have scaled := scaled_eq exact exponent bits
  have power : (0 : ℚ) < 2 ^ (exponent + (bits : ℤ)) := zpow_pos two_pos _
  have reach : exponent + (bits : ℤ) ≤ 971 := by
    rcases shortened.full with full | bottom
    · rw [← scaled, le_div_iff₀ power] at full
      have less : (2 : ℚ) ^ (52 + (exponent + (bits : ℤ))) < 2 ^ (1024 : ℤ) := by
        rw [zpow_add₀ two_ne_zero]
        exact lt_of_le_of_lt full (bounded.trans infinityBound_mem.2)
      have lesser := (zpow_lt_zpow_iff_right₀ one_lt_two).mp less
      omega
    · omega
  have nearest : ∀ other, Representable other → _ := fun other few =>
    nearest_of_roundsTo (exact * 2 ^ exponent) (scaled ▸ shortened.rounds) (scaled ▸ shortened.full) few
  rw [rounding]
  by_cases none : rounded = 0
  · rw [dif_pos none]
    obtain ⟨parts, read, signs, zero⟩ := ofFloat?_pack_zero sign
    refine ⟨parts, read, signs, nearest_of_size (rounded * 2 ^ (exponent + (bits : ℤ))) ?_ fun other few => ?_⟩
    · rw [value_of_zero zero, none]
      simp
    · exact ⟨(nearest other few).1, fun _ _ => by rw [zero]⟩
  rw [dif_neg none]
  by_cases below : rounded < 9007199254740992
  · rw [if_pos below]
    obtain ⟨parts, read, signs, mantissas, powers⟩ := ofFloat?_pack_finite sign
      (Nat.pos_of_ne_zero none) below least reach shortened.many
    refine ⟨parts, read, signs, nearest_of_size (rounded * 2 ^ (exponent + (bits : ℤ))) ?_ fun other few => ?_⟩
    · rw [value_eq_signUnit signs, mantissas, powers]
    · rw [mantissas]
      exact nearest other few
  · -- the next power of two, which is a double unless the power is the greatest one
    rw [if_neg below]
    have all : rounded = 9007199254740992 := by omega
    have reach' : exponent + (bits : ℤ) + 1 ≤ 971 := by
      by_contra! greatest
      have top : exponent + (bits : ℤ) = 971 := by omega
      have near := (abs_le.mp shortened.rounds.nearest).2
      have most : exact / 2 ^ bits < 9007199254740991 + 1 / 2 := by
        rw [← scaled, top, div_lt_iff₀ (zpow_pos two_pos _), ← infinityBound_eq]
        exact bounded
      rw [all] at near
      push_cast at near
      linarith
    obtain ⟨parts, read, signs, mantissas, powers⟩ := ofFloat?_pack_finite sign
      (show 0 < 4503599627370496 by decide) (by decide) (by omega : -1074 ≤ exponent + (bits : ℤ) + 1) reach'
      (.inl (by decide))
    refine ⟨parts, read, signs, nearest_of_size (rounded * 2 ^ (exponent + (bits : ℤ))) ?_ fun other few => ?_⟩
    · rw [value_eq_signUnit signs, mantissas, powers, two_zpow_add_one, all]
      push_cast
      ring
    · exact ⟨(nearest other few).1, fun _ _ => by rw [mantissas]⟩

/-- A number with a greater power of two than a double can have is packed as an infinity. -/
theorem pack_finite_of_le (sign : Sign) (some : 0 < mantissa) (beyond : 972 ≤ exponent) :
    Float.Model.pack (.finite sign mantissa exponent some) = .pack (.infinity sign) := by
  have biased : 2 ^ Format.binary64.exponentBits ≤
      (exponent + Format.binary64.exponentBias + Format.binary64.mantissaBitsWithoutImplicit).toNat + 1 := by
    change 2 ^ 11 ≤ (exponent + 1023 + 52).toNat + 1
    omega
  have packed : UnpackedFloat.pack Format.binary64 (.finite sign mantissa exponent some) =
      UnpackedFloat.pack Format.binary64 (.infinity sign) := by
    unfold UnpackedFloat.pack
    dsimp only
    rw [if_pos biased]
  exact (Float.Model.mk.injEq ..).mpr (congrArg UInt64.ofBitVec packed)

/-- Rounding a mantissa whose last bits are known makes an infinity from half a unit beyond the greatest double on. -/
theorem infinite_roundWithAccuracy (sign : Sign) (known : Extends (.ofMantissaAndAccuracy mantissa accuracy) exact)
    (fine : 52 ≤ mantissa.log2 ∨ exponent ≤ -1074) (beyond : infinityBound ≤ exact * 2 ^ exponent) :
    Float.Model.pack (roundWithAccuracy Format.binary64 sign mantissa exponent accuracy) =
      .pack (.infinity sign) := by
  obtain ⟨bits, rounded, shortened, rounding⟩ := exists_shortened sign known fine
  have scaled := scaled_eq exact exponent bits
  have power : (0 : ℚ) < 2 ^ (exponent + (bits : ℤ)) := zpow_pos two_pos _
  have reach : 971 ≤ exponent + (bits : ℤ) := by
    have short := shortened.short
    rw [← scaled, div_lt_iff₀ power] at short
    have less : (2 : ℚ) ^ (1023 : ℤ) < 2 ^ (53 + (exponent + (bits : ℤ))) := by
      rw [zpow_add₀ two_ne_zero]
      exact infinityBound_mem.1.trans (lt_of_le_of_lt beyond short)
    have lesser := (zpow_lt_zpow_iff_right₀ one_lt_two).mp less
    omega
  have some : rounded ≠ 0 := by
    rcases shortened.many with many | bottom <;> omega
  rw [rounding, dif_neg some]
  by_cases below : rounded < 9007199254740992
  · -- with the greatest power that a double has, the next power of two would be reached
    rw [if_pos below]
    refine pack_finite_of_le sign _ ?_
    by_contra! within
    have top : exponent + (bits : ℤ) = 971 := by omega
    have large : 9007199254740991 + 1 / 2 ≤ exact / 2 ^ bits := by
      rw [← scaled, top, le_div_iff₀ (zpow_pos two_pos _), ← infinityBound_eq]
      exact beyond
    have all := shortened.eq_of_le large
    omega
  · rw [if_neg below]
    exact pack_finite_of_le sign _ (by omega)

end Rounding

/-- The sign of a product. -/
theorem signUnit_mul (sign sign' : Sign) : signUnit (sign * sign') = signUnit sign * signUnit sign' := by
  cases sign <;> cases sign' <;> decide +kernel

/-- The sign of a quotient. -/
theorem signUnit_div (sign sign' : Sign) : signUnit (sign / sign') = signUnit sign / signUnit sign' := by
  cases sign <;> cases sign' <;> decide +kernel

/-- One with a sign has the size one. -/
theorem abs_signUnit (sign : Sign) : |signUnit sign| = 1 := by
  cases sign <;> decide +kernel

/-- A multiple of a lesser power of two, with its sign. -/
theorem apply_decreaseExponent (sign : Sign) (mantissa : ℕ) {exponent least : ℤ} (lesser : least ≤ exponent) :
    ((sign.apply (decreaseExponent mantissa exponent least).1 : ℤ) : ℚ) * 2 ^ least =
      signUnit sign * (mantissa * 2 ^ exponent) := by
  obtain ⟨bits, rfl⟩ := Int.le.dest lesser
  have added : (decreaseExponent mantissa (least + bits) least).1 = mantissa * 2 ^ bits := by
    change mantissa <<< (least + bits - least).toNat = _
    rw [add_sub_cancel_left, Int.toNat_natCast, Nat.shiftLeft_eq]
  rw [added, zpow_add₀ two_ne_zero, zpow_natCast]
  cases sign with
  | negative =>
    rw [signUnit, Sign.apply]
    push_cast
    ring
  | positive =>
    rw [signUnit, Sign.apply]
    push_cast
    ring

/-- What remains of a division tells how to round the quotient. -/
theorem Extends.ofFraction (numerator : ℕ) {denominator : ℕ} (positive : 0 < denominator) :
    Extends (.ofMantissaAndAccuracy (numerator / denominator)
      (accuracyOfFraction (numerator % denominator) denominator)) (numerator / denominator) := by
  have unit : (0 : ℚ) < denominator := Nat.cast_pos.mpr positive
  have parts : (denominator : ℚ) * (numerator / denominator : ℕ) + (numerator % denominator : ℕ) = numerator := by
    exact_mod_cast Nat.div_add_mod numerator denominator
  have less := Nat.mod_lt numerator positive
  generalize numerator / denominator = quotient at *
  generalize numerator % denominator = rest at *
  have exact : (numerator : ℚ) / denominator = quotient + rest / denominator := by
    rw [← parts]
    field_simp
  have high : (rest : ℚ) / denominator < 1 := (div_lt_one unit).mpr (by exact_mod_cast less)
  rw [exact]
  unfold accuracyOfFraction
  by_cases none : rest = 0
  · rw [if_pos none, none]
    change (quotient : ℚ) + _ = quotient
    simp
  · have some : (0 : ℚ) < (rest : ℚ) / denominator := div_pos (Nat.cast_pos.mpr (Nat.pos_of_ne_zero none)) unit
    rw [if_neg none]
    rcases Nat.lt_trichotomy (2 * rest) denominator with below | half | above
    · have lesser : (rest : ℚ) / denominator < 1 / 2 := by
        rw [div_lt_div_iff₀ unit two_pos, one_mul, mul_comm]
        exact_mod_cast below
      rw [Nat.compare_eq_lt.mpr below]
      change (quotient : ℚ) < _ ∧ _ < (quotient : ℚ) + 1 / 2
      exact ⟨by linarith, by linarith⟩
    · have level : (rest : ℚ) / denominator = 1 / 2 := by
        rw [div_eq_div_iff unit.ne' two_ne_zero, one_mul, mul_comm]
        exact_mod_cast half
      rw [Nat.compare_eq_eq.mpr half, level]
      rfl
    · have greater : 1 / 2 < (rest : ℚ) / denominator := by
        rw [div_lt_div_iff₀ two_pos unit, one_mul, mul_comm (rest : ℚ)]
        exact_mod_cast above
      rw [Nat.compare_eq_gt.mpr above]
      change (quotient : ℚ) + 1 / 2 < _ ∧ _ < (quotient : ℚ) + 1
      exact ⟨by linarith, by linarith⟩

/-- The quotient of two numbers is computed to as many bits as a double has, and with what remains. -/
theorem exists_divCore {mantissa mantissa' : ℕ} (exponent exponent' : ℤ) (some : 0 < mantissa) (some' : 0 < mantissa') :
    ∃ (quotient : ℕ) (power : ℤ) (accuracy : Accuracy) (exact : ℚ),
      divCore Format.binary64 mantissa exponent mantissa' exponent' = (quotient, power, accuracy) ∧
        Extends (.ofMantissaAndAccuracy quotient accuracy) exact ∧ (52 ≤ quotient.log2 ∨ power ≤ -1074) ∧
        exact * 2 ^ power = mantissa * 2 ^ exponent / (mantissa' * 2 ^ exponent') := by
  obtain ⟨bits, added⟩ := Int.le.dest (min_le_left (exponent - exponent')
    (max ((mantissa.log2 : ℤ) + exponent - (mantissa'.log2 + exponent') - 53) (-1074)))
  rw [← eq_sub_iff_add_eq] at added
  have core : divCore Format.binary64 mantissa exponent mantissa' exponent' =
      (mantissa * 2 ^ bits / mantissa', exponent - exponent' - bits,
        accuracyOfFraction (mantissa * 2 ^ bits % mantissa') mantissa') := by
    have target : Format.binary64.targetExponent (totalExponent mantissa exponent - totalExponent mantissa' exponent') =
        max ((mantissa.log2 : ℤ) + exponent - (mantissa'.log2 + exponent') - 53) (-1074) := by
      have least : Format.binary64.minExponent = -1074 := rfl
      have width : (Format.binary64.mantissaBits : ℤ) = 53 := rfl
      rw [Format.targetExponent, totalExponent, totalExponent, least, width]
      omega
    unfold divCore
    rw [target, added]
    dsimp only
    rw [sub_sub_cancel, Int.toNat_natCast, Nat.shiftLeft_eq]
  have fine : 52 ≤ (mantissa * 2 ^ bits / mantissa').log2 ∨ exponent - exponent' - (bits : ℤ) ≤ -1074 := by
    by_cases bottom : exponent - exponent' - (bits : ℤ) ≤ -1074
    · exact .inr bottom
    · left
      have digits : 2 ^ mantissa.log2 ≤ mantissa := Nat.log2_self_le some.ne'
      have digits' : mantissa' ≤ 2 ^ (mantissa'.log2 + 1) := Nat.lt_log2_self.le
      have enough : 2 ^ 52 ≤ mantissa * 2 ^ bits / mantissa' := by
        rw [Nat.le_div_iff_mul_le some']
        calc 2 ^ 52 * mantissa' ≤ 2 ^ 52 * 2 ^ (mantissa'.log2 + 1) := Nat.mul_le_mul_left _ digits'
          _ = 2 ^ (52 + (mantissa'.log2 + 1)) := (Nat.pow_add ..).symm
          _ ≤ 2 ^ (mantissa.log2 + bits) := Nat.pow_le_pow_right (by decide) (by omega)
          _ = 2 ^ mantissa.log2 * 2 ^ bits := Nat.pow_add ..
          _ ≤ mantissa * 2 ^ bits := Nat.mul_le_mul_right _ digits
      exact (Nat.le_log2 (Nat.pos_iff_ne_zero.mp (Nat.lt_of_lt_of_le (by decide) enough))).mpr enough
  refine ⟨_, _, _, _, core, Extends.ofFraction (mantissa * 2 ^ bits) some', fine, ?_⟩
  rw [zpow_sub₀ two_ne_zero, zpow_sub₀ two_ne_zero, zpow_natCast]
  push_cast
  field_simp

/-- A zero is what zero is rounded to. -/
theorem nearest_pack_zero (sign : Sign) :
    ∃ parts, ofFloat? (.ofModel (.pack (.zero sign))) = some parts ∧ parts.Nearest 0 := by
  obtain ⟨parts, read, _, none⟩ := ofFloat?_pack_zero sign
  exact ⟨parts, read, value_of_zero none ▸ Nearest.self parts⟩

/-- Rounding a mantissa, however few bits it has, makes a double that is nearest. -/
theorem nearest_round (sign : Sign) {mantissa : ℕ} {exponent : ℤ} (some : 0 < mantissa)
    (bounded : (mantissa : ℚ) * 2 ^ exponent < infinityBound) :
    ∃ parts, ofFloat? (.ofModel (.pack (UnpackedFloat.round Format.binary64 sign mantissa exponent))) = Option.some parts ∧
      parts.Nearest (signUnit sign * (mantissa * 2 ^ exponent)) := by
  obtain ⟨bits, added⟩ : ∃ bits : ℕ, (exponent - max (mantissa.log2 + exponent - 52) (-1074)).toNat = bits := ⟨_, rfl⟩
  have rounded : UnpackedFloat.round Format.binary64 sign mantissa exponent =
      roundWithAccuracy Format.binary64 sign (mantissa * 2 ^ bits) (exponent - bits) .exact := by
    unfold UnpackedFloat.round
    rw [targetExponent_eq, ← Nat.shiftLeft_eq, ← added]
    rfl
  have same : ((mantissa * 2 ^ bits : ℕ) : ℚ) * 2 ^ (exponent - bits) = mantissa * 2 ^ exponent := by
    rw [zpow_sub₀ two_ne_zero, zpow_natCast]
    push_cast
    field_simp
  have size : (mantissa * 2 ^ bits).log2 = mantissa.log2 + bits := by
    have digits := (Nat.log2_eq_iff some.ne').mp rfl
    refine (Nat.log2_eq_iff (Nat.mul_ne_zero some.ne' (by simp))).mpr ⟨?_, ?_⟩
    · rw [Nat.pow_add]
      exact Nat.mul_le_mul_right _ digits.1
    · rw [Nat.add_right_comm, Nat.pow_add]
      exact Nat.mul_lt_mul_of_pos_right digits.2 (Nat.two_pow_pos _)
  have fine : 52 ≤ (mantissa * 2 ^ bits).log2 ∨ exponent - (bits : ℤ) ≤ -1074 := by omega
  rw [← same] at bounded
  obtain ⟨parts, read, _, nearest⟩ := nearest_roundWithAccuracy sign (Extends.ofExact _) fine bounded
  rw [rounded, ← same]
  exact ⟨parts, read, nearest⟩

/-- Rounding a whole multiple of a power of two makes a double that is nearest. -/
theorem nearest_normalize {multiple exponent : ℤ} (bounded : |(multiple : ℚ) * 2 ^ exponent| < infinityBound) :
    ∃ parts, ofFloat? (.ofModel (.pack (UnpackedFloat.normalize Format.binary64 multiple exponent .positive))) = some parts ∧
      parts.Nearest (multiple * 2 ^ exponent) := by
  have power : (0 : ℚ) < 2 ^ exponent := zpow_pos two_pos _
  rw [abs_mul, abs_of_pos power] at bounded
  unfold UnpackedFloat.normalize
  rcases Int.lt_trichotomy multiple 0 with below | rfl | above
  · obtain ⟨size, rfl⟩ : ∃ size : ℕ, multiple = -size := ⟨(-multiple).toNat, by omega⟩
    rw [Int.compare_eq_lt.mpr below]
    dsimp only
    rw [Int.cast_neg, Int.cast_natCast, abs_neg, Nat.abs_cast] at bounded
    have rounds := nearest_round .negative (by omega : 0 < size) bounded
    rw [neg_neg, Int.toNat_natCast]
    push_cast
    rwa [signUnit, neg_one_mul, ← neg_mul] at rounds
  · rw [Int.compare_eq_eq.mpr rfl, Int.cast_zero, zero_mul]
    exact nearest_pack_zero .positive
  · obtain ⟨size, rfl⟩ : ∃ size : ℕ, multiple = size := ⟨multiple.toNat, by omega⟩
    rw [Int.compare_eq_gt.mpr above]
    dsimp only
    rw [Int.cast_natCast, Nat.abs_cast] at bounded
    have rounds := nearest_round .positive (by omega : 0 < size) bounded
    rw [Int.toNat_natCast, Int.cast_natCast]
    rwa [signUnit, one_mul] at rounds

/-- A double that is packed again is what its value is rounded to. -/
theorem nearest_pack_finite {parts : BinaryParts} (canonical : parts.Canonical) (sign : Sign)
    (some : 0 < parts.mantissa) :
    ∃ again, ofFloat? (.ofModel (.pack (.finite sign parts.mantissa parts.exponent some))) = Option.some again ∧
      again.Nearest (signUnit sign * (parts.mantissa * 2 ^ parts.exponent)) := by
  obtain ⟨again, read, signs, mantissas, powers⟩ := ofFloat?_pack_finite sign some canonical.few
    canonical.least canonical.greatest canonical.full
  have same := value_eq_signUnit signs
  rw [mantissas, powers] at same
  exact ⟨again, read, same ▸ Nearest.self again⟩

end LiveFlags.BinaryParts
