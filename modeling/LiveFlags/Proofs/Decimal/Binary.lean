import LiveFlags.Config.Basic
import LiveFlags.Decimal.Binary
import Mathlib.Algebra.Order.Field.Rat
import Mathlib.Order.Compare
import Mathlib.Tactic.Linarith
import Mathlib.Tactic.Positivity
import Mathlib.Tactic.Ring

/-!
# The value of a double

`BinaryParts.ofFloat?` reads the sign, the mantissa and the exponent off the bits of a double, and these
are the ones by which doubles are computed with and compared (`reads_of_ofFloat?`). The mantissa has 53 bits,
unless the exponent is the least one (`canonical_of_ofFloat?`). So a finite double stands for a fraction
(`StandsFor`), and the order of finite doubles is the order of these fractions (`float_le_iff`, `float_lt_iff`). A
spread in range is a fraction from zero to one (`valueOf_of_jitterInRange`).
-/
namespace LiveFlags.BinaryParts

open Float.Model (Format UnpackedFloat)
open Float.Model.UnpackedFloat

/-- The mantissa with its sign. -/
def signed (parts : BinaryParts) : ℤ := if parts.negative then -(parts.mantissa : ℤ) else parts.mantissa

/-- The fraction that the parts of a double stand for. -/
def value (parts : BinaryParts) : ℚ := parts.signed * 2 ^ parts.exponent

/-- The parts of a double have as many bits as a double has. -/
structure Canonical (parts : BinaryParts) : Prop where
  /-- The mantissa has at most 53 bits. -/
  few : parts.mantissa < 9007199254740992
  /-- No exponent is less. -/
  least : -1074 ≤ parts.exponent
  /-- No exponent is greater. -/
  greatest : parts.exponent ≤ 971
  /-- The mantissa has 53 bits unless the exponent is the least one. -/
  full : 4503599627370496 ≤ parts.mantissa ∨ parts.exponent = -1074

/-- What the parts of a double say about the double as it is computed with. -/
def Reads (parts : BinaryParts) : UnpackedFloat → Prop
  | .infinity _ | .notANumber => False
  | .zero _ => parts.mantissa = 0
  | .finite sign mantissa exponent _ =>
    parts.mantissa = mantissa ∧ parts.exponent = exponent ∧ (parts.negative = true ↔ sign = .negative)

/-- The exponent field of a double. -/
theorem toNat_unpackExponent (bits : UInt64) :
    (@unpackExponent Format.binary64 bits.toBitVec).toNat =
      bits.toNat / 4503599627370496 % 2048 := by
  change (bits.toNat >>> 52) % 2 ^ 11 = _
  rw [Nat.shiftRight_eq_div_pow]

/-- The mantissa field of a double. -/
theorem toNat_unpackMantissa (bits : UInt64) :
    (@unpackMantissa Format.binary64 bits.toBitVec).toNat = bits.toNat % 4503599627370496 := by
  change (bits.toNat >>> 0) % 2 ^ 52 = _
  rw [Nat.shiftRight_zero]

/-- The sign of a double is its highest bit. -/
theorem ofBitVec_unpackSign_iff (bits : UInt64) :
    Sign.ofBitVec (@unpackSign Format.binary64 bits.toBitVec) = .negative ↔
      9223372036854775808 ≤ bits.toNat := by
  have word := bits.toNat_lt
  have high : (@unpackSign Format.binary64 bits.toBitVec).toNat =
      bits.toNat / 9223372036854775808 := by
    change (bits.toNat >>> 63) % 2 ^ 1 = _
    rw [Nat.shiftRight_eq_div_pow]
    omega
  have two : ∀ sign : BitVec 1, sign = 0#1 ∨ sign = 1#1 := by decide
  rcases two (@unpackSign Format.binary64 bits.toBitVec) with same | same
  · rw [same] at high ⊢
    have low : 0 = bits.toNat / 9223372036854775808 := high
    exact ⟨fun absurd => by contradiction, fun large => by omega⟩
  · rw [same] at high ⊢
    have set : 1 = bits.toNat / 9223372036854775808 := high
    exact ⟨fun _ => by omega, fun _ => rfl⟩

/-- The parts of a double have as many bits as a double has. -/
theorem canonical_of_ofFloat? {number : Float} {parts : BinaryParts} (same : ofFloat? number = some parts) :
    parts.Canonical := by
  unfold ofFloat? at same
  dsimp only at same
  split at same
  · contradiction
  split at same
  · obtain rfl := Option.some.inj same
    constructor <;> dsimp only <;> omega
  · obtain rfl := Option.some.inj same
    constructor <;> dsimp only <;> omega

/-- The parts of a double are those by which it is computed with. -/
theorem reads_of_ofFloat? {number : Float} {parts : BinaryParts} (same : ofFloat? number = some parts) :
    parts.Reads number.toModel.unpack := by
  have exponent := toNat_unpackExponent number.toBits
  have mantissa := toNat_unpackMantissa number.toBits
  have sign := ofBitVec_unpackSign_iff number.toBits
  have small := Nat.mod_lt number.toBits.toNat (show 0 < 4503599627370496 by decide)
  have computed : number.toModel.unpack = unpack Format.binary64 number.toBits.toBitVec := rfl
  rw [computed]
  unfold unpack
  unfold ofFloat? at same
  dsimp only at same ⊢
  by_cases top : number.toBits.toNat / 4503599627370496 % 2048 = 2047
  · rw [if_pos top] at same
    contradiction
  have below : @unpackExponent Format.binary64 number.toBits.toBitVec ≠ -1#11 := by
    intro all
    rw [all] at exponent
    exact top exponent.symm
  rw [if_neg top] at same
  rw [if_neg below]
  by_cases bottom : @unpackExponent Format.binary64 number.toBits.toBitVec = 0#11
  · -- a zero, or a number without the implicit bit
    have none : number.toBits.toNat / 4503599627370496 % 2048 = 0 := by
      rw [← exponent, bottom]
      rfl
    rw [if_pos none] at same
    rw [if_pos bottom]
    obtain rfl := Option.some.inj same
    by_cases empty : @unpackMantissa Format.binary64 number.toBits.toBitVec = 0#52
    · rw [dif_pos empty]
      rw [empty] at mantissa
      exact mantissa.symm
    · rw [dif_neg empty]
      refine ⟨mantissa.symm, ?_, by rw [sign, decide_eq_true_iff]⟩
      rw [bottom]
      rfl
  · have positive : number.toBits.toNat / 4503599627370496 % 2048 ≠ 0 := by
      rw [← exponent]
      exact fun same => bottom (BitVec.eq_of_toNat_eq same)
    rw [if_neg positive] at same
    rw [if_neg bottom]
    obtain rfl := Option.some.inj same
    refine ⟨?_, ?_, by rw [sign, decide_eq_true_iff]⟩
    · simp only [BitVec.toNat_append, mantissa, show (1#1).toNat = 1 from rfl, Nat.shiftLeft_eq,
        Nat.one_mul]
      rw [Nat.or_comm, Nat.or_two_pow_eq_add_of_lt small, Nat.add_comm]
    · rw [exponent]
      change ((number.toBits.toNat / 4503599627370496 % 2048 : Nat) : Int) - 1075 = _ - (1023 + 52)
      omega

/-- A double that has parts is finite. -/
theorem isFinite_of_ofFloat? {number : Float} {parts : BinaryParts} (same : ofFloat? number = some parts) :
    number.isFinite = true := by
  have reads := reads_of_ofFloat? same
  have bounded : number.isFinite = number.toModel.unpack.isFinite := rfl
  rw [bounded]
  generalize number.toModel.unpack = computed at reads
  cases computed with
  | infinity | notANumber => exact reads.elim
  | zero | finite => rfl

/-- A finite double has parts. -/
theorem exists_parts_of_isFinite {number : Float} (finite : number.isFinite = true) :
    ∃ parts, ofFloat? number = some parts := by
  have exponent := toNat_unpackExponent number.toBits
  unfold ofFloat?
  dsimp only
  by_cases top : number.toBits.toNat / 4503599627370496 % 2048 = 2047
  · -- the exponent field of an infinity and of a value that is no number
    have all : @unpackExponent Format.binary64 number.toBits.toBitVec = -1#11 :=
      BitVec.eq_of_toNat_eq (exponent.trans top)
    have bounded : number.isFinite = (unpack Format.binary64 number.toBits.toBitVec).isFinite := rfl
    rw [bounded] at finite
    unfold unpack at finite
    dsimp only at finite
    rw [if_pos all] at finite
    split at finite <;> contradiction
  · rw [if_neg top]
    split
    · exact ⟨_, rfl⟩
    · exact ⟨_, rfl⟩

section Order

variable {left right : BinaryParts}

/-- Two more of a power of two make the next one. -/
theorem two_zpow_add_one (exponent : ℤ) : (2 : ℚ) ^ (exponent + 1) = 2 * 2 ^ exponent := by
  rw [zpow_add_one₀ two_ne_zero, mul_comm]

/-- Of two numbers with as many bits as a double has, the one with the lesser exponent is the lesser. -/
theorem mantissa_mul_lt_of_exponent_lt (canonicalLeft : left.Canonical) (canonicalRight : right.Canonical)
    (less : left.exponent < right.exponent) :
    (left.mantissa : ℚ) * 2 ^ left.exponent < right.mantissa * 2 ^ right.exponent := by
  have few : (left.mantissa : ℚ) < 9007199254740992 := by exact_mod_cast canonicalLeft.few
  have full : (4503599627370496 : ℚ) ≤ right.mantissa := by
    rcases canonicalRight.full with full | bottom
    · exact_mod_cast full
    · have least := canonicalLeft.least
      omega
  have positive : (0 : ℚ) < 2 ^ left.exponent := zpow_pos two_pos _
  have power : (2 : ℚ) ^ (left.exponent + 1) ≤ 2 ^ right.exponent := zpow_le_zpow_right₀ one_le_two less
  calc (left.mantissa : ℚ) * 2 ^ left.exponent < 9007199254740992 * 2 ^ left.exponent :=
        mul_lt_mul_of_pos_right few positive
    _ = 4503599627370496 * 2 ^ (left.exponent + 1) := by rw [two_zpow_add_one]; ring
    _ ≤ 4503599627370496 * 2 ^ right.exponent := mul_le_mul_of_nonneg_left power (by norm_num)
    _ ≤ right.mantissa * 2 ^ right.exponent :=
        mul_le_mul_of_nonneg_right full (le_of_lt (zpow_pos two_pos _))

/-- Numbers with as many bits as a double has are compared by their exponents and then by their
mantissas. -/
theorem compare_then_eq_cmp (canonicalLeft : left.Canonical) (canonicalRight : right.Canonical) :
    (compare left.exponent right.exponent).then (compare left.mantissa right.mantissa) =
      cmp ((left.mantissa : ℚ) * 2 ^ left.exponent) (right.mantissa * 2 ^ right.exponent) := by
  rcases Int.lt_trichotomy left.exponent right.exponent with less | same | greater
  · rw [Int.compare_eq_lt.mpr less,
      (cmp_eq_lt_iff _ _).mpr (mantissa_mul_lt_of_exponent_lt canonicalLeft canonicalRight less)]
    rfl
  · have positive : (0 : ℚ) < 2 ^ right.exponent := zpow_pos two_pos _
    rw [same, Int.compare_eq_eq.mpr rfl, Ordering.eq_then]
    rcases Nat.lt_trichotomy left.mantissa right.mantissa with less | equal | greater
    · have product := mul_lt_mul_of_pos_right (Nat.cast_lt.mpr less) positive
      rw [Nat.compare_eq_lt.mpr less, (cmp_eq_lt_iff _ _).mpr product]
    · rw [equal, Nat.compare_eq_eq.mpr rfl, cmp_self_eq_eq]
    · have product := mul_lt_mul_of_pos_right (Nat.cast_lt.mpr greater) positive
      rw [Nat.compare_eq_gt.mpr greater, (cmp_eq_gt_iff _ _).mpr product]
  · rw [Int.compare_eq_gt.mpr greater,
      (cmp_eq_gt_iff _ _).mpr (mantissa_mul_lt_of_exponent_lt canonicalRight canonicalLeft greater)]
    rfl

/-- The value of a number that is not negative. -/
theorem value_of_nonneg {parts : BinaryParts} (sign : parts.negative = false) :
    parts.value = parts.mantissa * 2 ^ parts.exponent := by
  rw [value, signed, sign]
  rfl

/-- The value of a negative number. -/
theorem value_of_negative {parts : BinaryParts} (sign : parts.negative = true) :
    parts.value = -(parts.mantissa * 2 ^ parts.exponent) := by
  rw [value, signed, if_pos sign]
  push_cast
  ring

/-- The value of a number without a mantissa. -/
theorem value_of_zero {parts : BinaryParts} (none : parts.mantissa = 0) : parts.value = 0 := by
  rw [value, signed, none]
  simp

/-- One with a sign. -/
def signUnit : Sign → ℚ
  | .negative => -1
  | .positive => 1

/-- The value of a number is its mantissa times a power of two, with its sign. -/
theorem value_eq_signUnit {parts : BinaryParts} {sign : Sign} (signs : parts.negative = true ↔ sign = .negative) :
    parts.value = signUnit sign * (parts.mantissa * 2 ^ parts.exponent) := by
  cases sign with
  | negative => rw [value_of_negative (signs.mpr rfl), signUnit, neg_one_mul]
  | positive => rw [value_of_nonneg (by simpa using signs), signUnit, one_mul]

/-- The sign of an opposite. -/
theorem signUnit_neg (sign : Sign) : signUnit (-sign) = -signUnit sign := by
  cases sign <;> decide +kernel

/-- A double as it is computed with stands for the fraction: it is a zero, or a mantissa and a power of two as a double
has them, with a sign. -/
inductive StandsFor : UnpackedFloat → ℚ → Prop
  /-- A zero. -/
  | zero (sign : Sign) : StandsFor (.zero sign) 0
  /-- Another number. -/
  | finite {parts : BinaryParts} (canonical : parts.Canonical) (sign : Sign) (some : 0 < parts.mantissa) :
    StandsFor (.finite sign parts.mantissa parts.exponent some)
      (signUnit sign * (parts.mantissa * 2 ^ parts.exponent))

/-- A double that has parts stands for their value. -/
theorem standsFor_of_ofFloat? {number : Float} {parts : BinaryParts} (same : ofFloat? number = some parts) :
    StandsFor number.toModel.unpack parts.value := by
  have canonical := canonical_of_ofFloat? same
  have reads := reads_of_ofFloat? same
  generalize number.toModel.unpack = computed at reads
  cases computed with
  | infinity | notANumber => exact reads.elim
  | zero sign =>
    rw [value_of_zero reads]
    exact .zero sign
  | finite sign mantissa exponent some =>
    obtain ⟨rfl, rfl, signs⟩ := reads
    rw [value_eq_signUnit signs]
    exact .finite canonical sign some

/-- Doubles are compared as the fractions that they stand for. -/
theorem StandsFor.compare_eq_cmp {one other : UnpackedFloat} {first second : ℚ} (stands : StandsFor one first)
    (stands' : StandsFor other second) : one.compare other = some (cmp first second) := by
  have positive : ∀ {parts : BinaryParts}, 0 < parts.mantissa → (0 : ℚ) < parts.mantissa * 2 ^ parts.exponent :=
    fun some => mul_pos (Nat.cast_pos.mpr some) (zpow_pos two_pos _)
  cases stands with
  | zero =>
    cases stands' with
    | zero =>
      rw [cmp_self_eq_eq]
      rfl
    | finite _ sign some =>
      have above := positive some
      cases sign with
      | positive =>
        rw [signUnit, one_mul, (cmp_eq_lt_iff _ _).mpr above]
        rfl
      | negative =>
        rw [signUnit, neg_one_mul, (cmp_eq_gt_iff _ _).mpr (neg_neg_of_pos above)]
        rfl
  | @finite left canonical sign some =>
    have above := positive some
    cases stands' with
    | zero =>
      cases sign with
      | positive =>
        rw [signUnit, one_mul, (cmp_eq_gt_iff _ _).mpr above]
        rfl
      | negative =>
        rw [signUnit, neg_one_mul, (cmp_eq_lt_iff _ _).mpr (neg_neg_of_pos above)]
        rfl
    | @finite right canonical' sign' some' =>
      have above' := positive some'
      have ordered := compare_then_eq_cmp canonical canonical'
      cases sign with
      | positive =>
        rw [signUnit, one_mul]
        cases sign' with
        | positive =>
          rw [signUnit, one_mul, ← ordered]
          rfl
        | negative =>
          rw [signUnit, neg_one_mul, (cmp_eq_gt_iff _ _).mpr ((neg_neg_of_pos above').trans above)]
          rfl
      | negative =>
        rw [signUnit, neg_one_mul]
        cases sign' with
        | positive =>
          rw [signUnit, one_mul, (cmp_eq_lt_iff _ _).mpr ((neg_neg_of_pos above).trans above')]
          rfl
        | negative =>
          have turned : cmp (-((left.mantissa : ℚ) * 2 ^ left.exponent)) (-(right.mantissa * 2 ^ right.exponent)) =
              (cmp ((left.mantissa : ℚ) * 2 ^ left.exponent) (right.mantissa * 2 ^ right.exponent)).swap := by
            rw [cmp_swap]
            unfold cmp cmpUsing
            simp only [neg_lt_neg_iff]
          rw [signUnit, neg_one_mul, turned, ← ordered]
          rfl

end Order

end LiveFlags.BinaryParts

namespace LiveFlags

open BinaryParts

/-- The fraction that a double stands for, and zero for a double that stands for none. -/
def valueOf (number : Float) : ℚ := (BinaryParts.ofFloat? number).elim 0 BinaryParts.value

/-- A double stands for the value of its parts. -/
theorem valueOf_eq {number : Float} {parts : BinaryParts} (same : ofFloat? number = some parts) :
    valueOf number = parts.value := by
  rw [valueOf, same, Option.elim]

/-- A finite double stands for its value. -/
theorem standsFor_valueOf {number : Float} (finite : number.isFinite = true) :
    StandsFor number.toModel.unpack (valueOf number) := by
  obtain ⟨parts, same⟩ := exists_parts_of_isFinite finite
  rw [valueOf_eq same]
  exact standsFor_of_ofFloat? same

/-- Zero stands for zero. -/
theorem valueOf_zero : valueOf 0.0 = 0 := by decide +kernel

/-- One stands for one. -/
theorem valueOf_one : valueOf 1.0 = 1 := by decide +kernel

/-- Two stands for two. -/
theorem valueOf_two : valueOf 2.0 = 2 := by decide +kernel

section Order

variable {left right : Float} (finiteLeft : left.isFinite = true) (finiteRight : right.isFinite = true)

include finiteLeft finiteRight

/-- The order of finite doubles is the order of the fractions that they stand for. -/
theorem float_le_iff : left ≤ right ↔ valueOf left ≤ valueOf right := by
  have order := (standsFor_valueOf finiteLeft).compare_eq_cmp (standsFor_valueOf finiteRight)
  have compared : left ≤ right ↔
      (left.toModel.unpack.compare right.toModel.unpack).any (·.isLE) = true := by
    have compares : left ≤ right ↔ Float.le left right = true := Iff.rfl
    rw [compares, Float.le, decide_eq_true_iff]
    rfl
  rw [compared, order, Option.any_some]
  rcases lt_trichotomy (valueOf left) (valueOf right) with less | same | greater
  · rw [(cmp_eq_lt_iff _ _).mpr less]
    exact iff_of_true rfl less.le
  · rw [(cmp_eq_eq_iff _ _).mpr same]
    exact iff_of_true rfl same.le
  · rw [(cmp_eq_gt_iff _ _).mpr greater]
    exact iff_of_false Bool.false_ne_true greater.not_ge

/-- So is the strict order. -/
theorem float_lt_iff : left < right ↔ valueOf left < valueOf right := by
  have order := (standsFor_valueOf finiteLeft).compare_eq_cmp (standsFor_valueOf finiteRight)
  have compared : left < right ↔
      (left.toModel.unpack.compare right.toModel.unpack == some .lt) = true := by
    have compares : left < right ↔ Float.lt left right = true := Iff.rfl
    rw [compares, Float.lt, decide_eq_true_iff]
    rfl
  rw [compared, order, ← cmp_eq_lt_iff (valueOf left)]
  cases cmp (valueOf left) (valueOf right) <;> decide

end Order

/-- A spread in range is a fraction from zero to one. -/
theorem valueOf_of_jitterInRange {jitter : Float} (inRange : Config.jitterInRange jitter = true) :
    jitter.isFinite = true ∧ 0 ≤ valueOf jitter ∧ valueOf jitter ≤ 1 := by
  simp only [Config.jitterInRange, Bool.and_eq_true, decide_eq_true_iff] at inRange
  obtain ⟨finite, least, greatest⟩ := inRange
  have above := (float_le_iff (by decide +kernel) finite).mp least
  have below := (float_le_iff finite (by decide +kernel)).mp greatest
  rw [valueOf_zero] at above
  rw [valueOf_one] at below
  exact ⟨finite, above, below⟩

end LiveFlags
