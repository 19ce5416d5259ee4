import LiveFlags.Proofs.Decimal.Binary
import LiveFlags.Time.Seconds
import Mathlib.Algebra.Order.Round
import Mathlib.Data.Int.Log
import Mathlib.Data.Rat.Floor
import Mathlib.Tactic.FieldSimp

/-!
# Rounding to whole numbers and to doubles

A fraction is rounded to a whole number if this number is nearest to it, and even if two are nearest
(`RoundsTo`); so quotients are rounded (`roundsTo_roundQuotient`). A fraction is rounded to a double in the same
sense: no fraction of as few bits lies nearer, and if another one lies as near, the last bit of the double is zero
(`Rounds`). Rounding to doubles keeps the order (`Rounds.mono`), leaves fractions of few bits as they are
(`Rounds.eq_of_representable`), and it comes of rounding the multiple of a power of two to a whole number
(`nearest_of_roundsTo`).
-/
namespace LiveFlags

/-- A whole number is nearest to a fraction, and it is the even one if two are nearest. -/
structure RoundsTo (exact : ℚ) (whole : ℕ) : Prop where
  /-- The whole number lies half a unit away at most. -/
  nearest : |(whole : ℚ) - exact| ≤ 1 / 2
  /-- Half a unit away it is even. -/
  even : |(whole : ℚ) - exact| = 1 / 2 → whole % 2 = 0

/-- Quotients are rounded to the nearest whole number. -/
theorem roundsTo_roundQuotient (numerator : ℕ) {denominator : ℕ} (positive : 0 < denominator) :
    RoundsTo ((numerator : ℚ) / denominator) (roundQuotient numerator denominator) := by
  have unit : (0 : ℚ) < denominator := Nat.cast_pos.mpr positive
  have parts : (denominator : ℚ) * (numerator / denominator : ℕ) + (numerator % denominator : ℕ) = numerator := by
    exact_mod_cast Nat.div_add_mod numerator denominator
  have less := Nat.mod_lt numerator positive
  unfold roundQuotient
  generalize numerator / denominator = quotient at *
  generalize numerator % denominator = rest at *
  have exact : (numerator : ℚ) / denominator = quotient + rest / denominator := by
    rw [← parts]
    field_simp
  have low : (0 : ℚ) ≤ (rest : ℚ) / denominator := by positivity
  have atMost : (rest : ℚ) / denominator ≤ 1 / 2 ↔ 2 * rest ≤ denominator := by
    rw [div_le_div_iff₀ unit two_pos, one_mul, mul_comm]
    exact_mod_cast Iff.rfl
  have atLeast : (1 : ℚ) / 2 ≤ (rest : ℚ) / denominator ↔ denominator ≤ 2 * rest := by
    rw [div_le_div_iff₀ two_pos unit, one_mul, mul_comm]
    exact_mod_cast Iff.rfl
  have high : (rest : ℚ) / denominator < 1 := (div_lt_one unit).mpr (by exact_mod_cast less)
  rw [exact]
  dsimp only
  by_cases down : 2 * rest < denominator ∨ 2 * rest = denominator ∧ quotient % 2 = 0
  · rw [if_pos down]
    have distance : |(quotient : ℚ) - (quotient + rest / denominator)| = rest / denominator := by
      rw [sub_add_cancel_left, abs_neg, abs_of_nonneg low]
    constructor
    · rw [distance, atMost]
      omega
    · rw [distance]
      intro same
      have most := atLeast.mp same.ge
      omega
  · rw [if_neg down]
    have distance : |((quotient + 1 : ℕ) : ℚ) - (quotient + rest / denominator)| = 1 - rest / denominator := by
      push_cast
      rw [add_sub_add_left_eq_sub, abs_of_nonneg (by linarith)]
    constructor
    · rw [distance]
      have most : (1 : ℚ) / 2 ≤ rest / denominator := atLeast.mpr (by omega)
      linarith
    · rw [distance]
      intro same
      have least := atMost.mp (by linarith)
      omega

/-- No whole number lies nearer than one that a fraction is rounded to, and if another one lies as near, the first is
even. -/
theorem RoundsTo.nearest_int {exact : ℚ} {whole : ℕ} (rounds : RoundsTo exact whole) (other : ℤ) :
    |(whole : ℚ) - exact| ≤ |(other : ℚ) - exact| ∧
      (|(other : ℚ) - exact| = |(whole : ℚ) - exact| → other ≠ whole → whole % 2 = 0) := by
  obtain ⟨near, even⟩ := rounds
  by_cases same : other = whole
  · rw [same, Int.cast_natCast]
    exact ⟨le_rfl, fun _ differs => absurd rfl differs⟩
  · have apart : (1 : ℚ) ≤ |(other : ℚ) - whole| := by
      have whole : (1 : ℤ) ≤ |other - whole| := Int.one_le_abs (sub_ne_zero.mpr same)
      exact_mod_cast whole
    have triangle := abs_sub_le (other : ℚ) exact whole
    rw [abs_sub_comm exact] at triangle
    exact ⟨by linarith, fun level _ => even (by linarith)⟩

/-- Rounding to whole numbers keeps the order. -/
theorem RoundsTo.mono {exact exact' : ℚ} {whole whole' : ℕ} (rounds : RoundsTo exact whole)
    (rounds' : RoundsTo exact' whole') (ordered : exact ≤ exact') : whole ≤ whole' := by
  by_contra! less
  have apart : (whole' : ℚ) + 1 ≤ whole := by exact_mod_cast less
  have near := abs_le.mp rounds.nearest
  have near' := abs_le.mp rounds'.nearest
  -- both lie half a unit away from the same fraction, so both are even
  have even := rounds.even (by rw [abs_of_nonneg (by linarith)]; linarith)
  have even' := rounds'.even (by rw [abs_of_nonpos (by linarith)]; linarith)
  have next : whole = whole' + 1 := by
    have most : (whole : ℚ) ≤ whole' + 1 := by linarith
    have few : whole ≤ whole' + 1 := by exact_mod_cast most
    omega
  omega

/-- A fraction with as few bits as a double has, however great. -/
def Representable (fraction : ℚ) : Prop :=
  ∃ mantissa exponent : ℤ, mantissa.natAbs < 9007199254740992 ∧ -1074 ≤ exponent ∧ fraction = mantissa * 2 ^ exponent

/-- What a double stands for has as few bits. -/
theorem BinaryParts.Canonical.representable {parts : BinaryParts} (canonical : parts.Canonical) :
    Representable parts.value := by
  have few := canonical.few
  refine ⟨parts.signed, parts.exponent, ?_, canonical.least, rfl⟩
  unfold signed
  split <;> omega

/-- The opposite of a fraction of few bits has as few. -/
theorem Representable.neg {fraction : ℚ} (few : Representable fraction) : Representable (-fraction) := by
  obtain ⟨mantissa, exponent, bits, least, rfl⟩ := few
  exact ⟨-mantissa, exponent, by rwa [Int.natAbs_neg], least, by push_cast; ring⟩

/-- Small whole numbers have few bits. -/
theorem representable_natCast {whole : ℕ} (few : whole < 9007199254740992) : Representable whole :=
  ⟨whole, 0, by omega, by decide, by rw [zpow_zero, mul_one, Int.cast_natCast]⟩

/-- Powers of two have a single bit. -/
theorem representable_two_pow (bits : ℕ) : Representable (2 ^ bits) :=
  ⟨1, bits, by decide, by omega, by rw [zpow_natCast, Int.cast_one, one_mul]⟩

/-- Twice a fraction of few bits has as few. -/
theorem Representable.two_mul {fraction : ℚ} (few : Representable fraction) : Representable (2 * fraction) := by
  obtain ⟨mantissa, exponent, bits, least, rfl⟩ := few
  refine ⟨mantissa, exponent + 1, bits, by omega, ?_⟩
  rw [BinaryParts.two_zpow_add_one]
  ring

/-- The parts of a double are the rounding of a fraction: no fraction of as few bits lies nearer, and if another one
lies as near the mantissa is even. -/
structure BinaryParts.Nearest (parts : BinaryParts) (exact : ℚ) : Prop where
  /-- No fraction of as few bits lies nearer. -/
  nearest : ∀ other, Representable other → |parts.value - exact| ≤ |other - exact|
  /-- If another one lies as near the mantissa is even. -/
  even : ∀ other, Representable other → |other - exact| = |parts.value - exact| → other ≠ parts.value →
    parts.mantissa % 2 = 0

namespace BinaryParts

/-- Between two doubles whose mantissas are even there is a fraction of as few bits. -/
theorem exists_representable_between {left right : BinaryParts} (canonicalLeft : left.Canonical)
    (canonicalRight : right.Canonical) (evenLeft : left.mantissa % 2 = 0) (evenRight : right.mantissa % 2 = 0)
    (less : left.value < right.value) :
    ∃ between, Representable between ∧ left.value < between ∧ between < right.value := by
  have few := canonicalLeft.few
  have few' := canonicalRight.few
  have whole : left.signed % 2 = 0 ∧ left.signed.natAbs ≤ 9007199254740990 := by
    unfold signed
    split <;> omega
  have whole' : right.signed % 2 = 0 ∧ right.signed.natAbs ≤ 9007199254740990 := by
    unfold signed
    split <;> omega
  unfold value at less ⊢
  rcases le_total left.exponent right.exponent with below | above
  · -- the next multiple of the lesser power of two
    obtain ⟨shift, shifted⟩ := Int.le.dest below
    have positive : (0 : ℚ) < 2 ^ left.exponent := zpow_pos two_pos _
    have scaled : (right.signed : ℚ) * 2 ^ right.exponent =
        ((right.signed * 2 ^ shift : ℤ) : ℚ) * 2 ^ left.exponent := by
      rw [← shifted, zpow_add₀ two_ne_zero, zpow_natCast]
      push_cast
      ring
    rw [scaled] at less ⊢
    have ordered : left.signed < right.signed * 2 ^ shift := by
      exact_mod_cast lt_of_mul_lt_mul_right less positive.le
    have even : right.signed * 2 ^ shift % 2 = 0 := by
      rw [Int.mul_emod, whole'.1]
      simp
    generalize right.signed * 2 ^ shift = multiple at ordered even ⊢
    refine ⟨((left.signed + 1 : ℤ) : ℚ) * 2 ^ left.exponent, ⟨_, _, by omega, canonicalLeft.least, rfl⟩, ?_, ?_⟩
    · exact mul_lt_mul_of_pos_right (by exact_mod_cast Int.lt_succ _) positive
    · exact mul_lt_mul_of_pos_right (by exact_mod_cast (by omega : left.signed + 1 < multiple)) positive
  · obtain ⟨shift, shifted⟩ := Int.le.dest above
    have positive : (0 : ℚ) < 2 ^ right.exponent := zpow_pos two_pos _
    have scaled : (left.signed : ℚ) * 2 ^ left.exponent =
        ((left.signed * 2 ^ shift : ℤ) : ℚ) * 2 ^ right.exponent := by
      rw [← shifted, zpow_add₀ two_ne_zero, zpow_natCast]
      push_cast
      ring
    rw [scaled] at less ⊢
    have ordered : left.signed * 2 ^ shift < right.signed := by
      exact_mod_cast lt_of_mul_lt_mul_right less positive.le
    have even : left.signed * 2 ^ shift % 2 = 0 := by
      rw [Int.mul_emod, whole.1]
      simp
    generalize left.signed * 2 ^ shift = multiple at ordered even ⊢
    refine ⟨((right.signed - 1 : ℤ) : ℚ) * 2 ^ right.exponent, ⟨_, _, by omega, canonicalRight.least, rfl⟩, ?_, ?_⟩
    · exact mul_lt_mul_of_pos_right (by exact_mod_cast (by omega : multiple < right.signed - 1)) positive
    · exact mul_lt_mul_of_pos_right (by exact_mod_cast sub_one_lt _) positive

/-- Of two fractions the greater is nearer only to those from their middle on. -/
theorem middle_le_of_abs_sub_le {first second exact : ℚ} (less : first < second)
    (near : |second - exact| ≤ |first - exact|) : (first + second) / 2 ≤ exact := by
  by_contra! below
  have far : |first - exact| < second - exact := abs_lt.mpr ⟨by linarith, by linarith⟩
  have above := le_abs_self (second - exact)
  linarith

/-- Of two fractions the lesser is nearer only to those up to their middle. -/
theorem le_middle_of_abs_sub_le {first second exact : ℚ} (less : first < second)
    (near : |first - exact| ≤ |second - exact|) : exact ≤ (first + second) / 2 := by
  by_contra! above
  have far : |second - exact| < exact - first := abs_lt.mpr ⟨by linarith, by linarith⟩
  have below := neg_abs_le (first - exact)
  linarith

namespace Nearest

variable {parts parts' : BinaryParts} {exact exact' : ℚ}

/-- Rounding to doubles keeps the order. -/
theorem mono (canonical : parts.Canonical) (canonical' : parts'.Canonical) (rounds : parts.Nearest exact)
    (rounds' : parts'.Nearest exact') (ordered : exact ≤ exact') : parts.value ≤ parts'.value := by
  by_contra! less
  have near := rounds.nearest parts'.value canonical'.representable
  have near' := rounds'.nearest parts.value canonical.representable
  have above := middle_le_of_abs_sub_le less near
  have below := le_middle_of_abs_sub_le less near'
  -- both doubles lie as far away from the same fraction, in the middle
  have middle : exact = (parts'.value + parts.value) / 2 := by linarith
  have middle' : exact' = (parts'.value + parts.value) / 2 := by linarith
  have level : |parts'.value - exact| = |parts.value - exact| := by
    rw [abs_of_nonpos (by linarith), abs_of_nonneg (by linarith)]
    linarith
  have level' : |parts.value - exact'| = |parts'.value - exact'| := by
    rw [middle', ← middle, level]
  have even := rounds.even _ canonical'.representable level less.ne
  have even' := rounds'.even _ canonical.representable level' less.ne'
  obtain ⟨between, few, low, high⟩ := exists_representable_between canonical' canonical even' even less
  have nearer : |between - exact| < |parts.value - exact| := by
    rw [abs_of_nonneg (by linarith : (0 : ℚ) ≤ parts.value - exact)]
    exact abs_lt.mpr ⟨by linarith, by linarith⟩
  exact absurd (rounds.nearest between few) (not_le.mpr nearer)

/-- A fraction of few bits is left as it is. -/
theorem eq_of_representable (rounds : parts.Nearest exact) (few : Representable exact) : parts.value = exact := by
  have near := rounds.nearest exact few
  rw [sub_self, abs_zero] at near
  exact sub_eq_zero.mp (abs_eq_zero.mp (le_antisymm near (abs_nonneg _)))

/-- What is rounded does not pass a fraction of few bits upwards. -/
theorem le_of_le (rounds : parts.Nearest exact) {bound : ℚ} (few : Representable bound) (le : exact ≤ bound) :
    parts.value ≤ bound := by
  by_contra! greater
  have middle := middle_le_of_abs_sub_le greater (rounds.nearest bound few)
  linarith

/-- Nor does it pass one downwards. -/
theorem ge_of_ge (rounds : parts.Nearest exact) {bound : ℚ} (few : Representable bound) (ge : bound ≤ exact) :
    bound ≤ parts.value := by
  by_contra! less
  have middle := le_middle_of_abs_sub_le less (rounds.nearest bound few)
  linarith

/-- A double is the rounding of what it stands for. -/
theorem self (parts : BinaryParts) : parts.Nearest parts.value where
  nearest other _ := by
    rw [sub_self, abs_zero]
    exact abs_nonneg _
  even other _ level differs := by
    rw [sub_self, abs_zero, abs_eq_zero, sub_eq_zero] at level
    exact absurd level differs

/-- Rounding is the same on both sides of zero. -/
theorem neg (rounds : parts.Nearest exact) (opposite : parts'.value = -parts.value)
    (same : parts'.mantissa = parts.mantissa) : parts'.Nearest (-exact) := by
  have turned : ∀ other : ℚ, |other - -exact| = |-other - exact| := by
    intro other
    rw [← abs_neg]
    congr 1
    ring
  constructor
  · intro other few
    rw [turned, turned, opposite, neg_neg]
    exact rounds.nearest _ few.neg
  · intro other few level differs
    rw [turned, turned, opposite, neg_neg] at level
    rw [same]
    exact rounds.even _ few.neg level (fun equal => differs (by rw [opposite, ← equal, neg_neg]))

end Nearest

/-- A multiple of a power of two is as near as any fraction of few bits if it has been rounded to a whole multiple, and
if the power is the least one or the fraction has as many bits as a double. -/
theorem nearest_of_roundsTo (exact : ℚ) {whole : ℕ} {exponent : ℤ} (rounds : RoundsTo (exact / 2 ^ exponent) whole)
    (full : 4503599627370496 ≤ exact / 2 ^ exponent ∨ exponent = -1074) {other : ℚ} (few : Representable other) :
    |whole * 2 ^ exponent - exact| ≤ |other - exact| ∧
      (|other - exact| = |whole * 2 ^ exponent - exact| → other ≠ whole * 2 ^ exponent → whole % 2 = 0) := by
  have unit : (0 : ℚ) < 2 ^ exponent := zpow_pos two_pos _
  obtain ⟨scaled, rfl⟩ : ∃ scaled, exact = scaled * 2 ^ exponent :=
    ⟨exact / 2 ^ exponent, (div_mul_cancel₀ _ unit.ne').symm⟩
  rw [mul_div_cancel_right₀ _ unit.ne'] at rounds full
  have distance : ∀ multiple : ℚ, |multiple * 2 ^ exponent - scaled * 2 ^ exponent| =
      |multiple - scaled| * 2 ^ exponent := by
    intro multiple
    rw [← sub_mul, abs_mul, abs_of_pos unit]
  obtain ⟨mantissa, power, bits, least, rfl⟩ := few
  rcases le_or_gt exponent power with above | below
  · -- the other fraction is a whole multiple as well
    obtain ⟨shift, rfl⟩ := Int.le.dest above
    have multiple : (mantissa : ℚ) * 2 ^ (exponent + shift) = ((mantissa * 2 ^ shift : ℤ) : ℚ) * 2 ^ exponent := by
      rw [zpow_add₀ two_ne_zero, zpow_natCast]
      push_cast
      ring
    obtain ⟨near, even⟩ := rounds.nearest_int (mantissa * 2 ^ shift)
    rw [multiple, distance, distance]
    refine ⟨mul_le_mul_of_nonneg_right near unit.le, fun level differs => even ?_ ?_⟩
    · exact mul_right_cancel₀ unit.ne' level
    · intro same
      exact differs (by rw [same, Int.cast_natCast])
  · -- the other fraction lies below all multiples of so many bits
    have full : 4503599627370496 ≤ scaled := full.resolve_right (by omega)
    have small : (mantissa : ℚ) * 2 ^ power < 4503599627370496 * 2 ^ exponent := by
      have lesser : (mantissa : ℚ) < 9007199254740992 := by
        have whole : mantissa < 9007199254740992 := by omega
        exact_mod_cast whole
      have double : (2 : ℚ) ^ (power + 1) ≤ 2 ^ exponent := zpow_le_zpow_right₀ one_le_two below
      rw [two_zpow_add_one] at double
      have positive : (0 : ℚ) < 2 ^ power := zpow_pos two_pos _
      have product := mul_lt_mul_of_pos_right lesser positive
      linarith
    have near := (rounds.nearest_int 4503599627370496).1
    have less : |whole * 2 ^ exponent - scaled * 2 ^ exponent| <
        |(mantissa : ℚ) * 2 ^ power - scaled * 2 ^ exponent| := by
      calc |whole * 2 ^ exponent - scaled * 2 ^ exponent| ≤ (scaled - 4503599627370496) * 2 ^ exponent := by
            rw [distance]
            refine mul_le_mul_of_nonneg_right (near.trans_eq ?_) unit.le
            rw [abs_of_nonpos (by push_cast; linarith)]
            push_cast
            ring
        _ < -((mantissa : ℚ) * 2 ^ power - scaled * 2 ^ exponent) := by linarith
        _ ≤ _ := neg_le_abs _
    exact ⟨less.le, fun level => absurd level less.ne'⟩

end BinaryParts

/-- A finite double is the rounding of a fraction. -/
def Rounds (exact : ℚ) (number : Float) : Prop :=
  ∃ parts, BinaryParts.ofFloat? number = some parts ∧ parts.Nearest exact

/-- What a finite double stands for has as few bits. -/
theorem representable_valueOf {number : Float} (finite : number.isFinite = true) : Representable (valueOf number) := by
  obtain ⟨parts, same⟩ := BinaryParts.exists_parts_of_isFinite finite
  rw [valueOf_eq same]
  exact (BinaryParts.canonical_of_ofFloat? same).representable

namespace Rounds

variable {number number' : Float} {exact exact' bound : ℚ}

/-- What has been rounded is finite. -/
theorem isFinite (rounds : Rounds exact number) : number.isFinite = true := by
  obtain ⟨parts, same, _⟩ := rounds
  exact BinaryParts.isFinite_of_ofFloat? same

/-- Rounding to doubles keeps the order. -/
theorem mono (rounds : Rounds exact number) (rounds' : Rounds exact' number') (ordered : exact ≤ exact') :
    valueOf number ≤ valueOf number' := by
  obtain ⟨parts, same, nearest⟩ := rounds
  obtain ⟨parts', same', nearest'⟩ := rounds'
  rw [valueOf_eq same, valueOf_eq same']
  exact nearest.mono (BinaryParts.canonical_of_ofFloat? same) (BinaryParts.canonical_of_ofFloat? same') nearest' ordered

/-- A fraction of few bits is left as it is. -/
theorem eq_of_representable (rounds : Rounds exact number) (few : Representable exact) : valueOf number = exact := by
  obtain ⟨parts, same, nearest⟩ := rounds
  rw [valueOf_eq same]
  exact nearest.eq_of_representable few

/-- What is rounded does not pass a fraction of few bits upwards. -/
theorem le_of_le (rounds : Rounds exact number) (few : Representable bound) (le : exact ≤ bound) :
    valueOf number ≤ bound := by
  obtain ⟨parts, same, nearest⟩ := rounds
  rw [valueOf_eq same]
  exact nearest.le_of_le few le

/-- Nor does it pass one downwards. -/
theorem ge_of_ge (rounds : Rounds exact number) (few : Representable bound) (ge : bound ≤ exact) :
    bound ≤ valueOf number := by
  obtain ⟨parts, same, nearest⟩ := rounds
  rw [valueOf_eq same]
  exact nearest.ge_of_ge few ge

/-- What is rounded moves by no more than the last bit of a double of that size. -/
theorem abs_sub_le (rounds : Rounds exact number) (size : ℤ) (least : -1022 ≤ size) (short : |exact| ≤ 2 ^ size) :
    |valueOf number - exact| ≤ 2 ^ (size - 53) := by
  have unit : (0 : ℚ) < 2 ^ (size - 52) := zpow_pos two_pos _
  have units : (2 : ℚ) ^ size = 4503599627370496 * 2 ^ (size - 52) := by
    rw [zpow_sub₀ two_ne_zero]
    norm_num
    ring
  have half : (2 : ℚ) ^ (size - 53) = 1 / 2 * 2 ^ (size - 52) := by
    rw [show size - 52 = size - 53 + 1 by ring, BinaryParts.two_zpow_add_one]
    ring
  obtain ⟨scaled, rfl⟩ : ∃ scaled, exact = scaled * 2 ^ (size - 52) :=
    ⟨exact / 2 ^ (size - 52), (div_mul_cancel₀ _ unit.ne').symm⟩
  have near := abs_sub_round scaled
  have few : |scaled| ≤ 4503599627370496 := by
    rw [abs_mul, abs_of_pos unit, units] at short
    exact le_of_mul_le_mul_right short unit
  have bits : (round scaled).natAbs < 9007199254740992 := by
    have less : |(round scaled : ℚ)| < 9007199254740992 := by
      have triangle := abs_sub_abs_le_abs_sub (round scaled : ℚ) scaled
      rw [abs_sub_comm] at triangle
      linarith
    have whole : |round scaled| < 9007199254740992 := by exact_mod_cast less
    rw [Int.abs_eq_natAbs] at whole
    omega
  obtain ⟨parts, same, nearest⟩ := rounds
  rw [valueOf_eq same, half]
  refine (nearest.nearest _ ⟨round scaled, size - 52, bits, by omega, rfl⟩).trans ?_
  rw [← sub_mul, abs_mul, abs_of_pos unit, abs_sub_comm]
  exact mul_le_mul_of_nonneg_right near unit.le

/-- What is rounded moves by no more than a small part of a bound of its size. -/
theorem abs_sub_le_mul (rounds : Rounds exact number) (tall : 2 ^ (-1022 : ℤ) ≤ bound) (short : |exact| ≤ bound) :
    |valueOf number - exact| ≤ bound / 2 ^ 52 := by
  have positive : 0 < bound := (zpow_pos two_pos _).trans_le tall
  have low := Int.zpow_log_le_self one_lt_two positive
  have high := Int.lt_zpow_succ_log_self one_lt_two bound
  have least : -1022 ≤ Int.log 2 bound := (Int.zpow_le_iff_le_log one_lt_two positive).mp (by exact_mod_cast tall)
  refine (rounds.abs_sub_le (Int.log 2 bound + 1) (by omega) ?_).trans ?_
  · exact short.trans (by exact_mod_cast high.le)
  · have unit : (2 : ℚ) ^ (Int.log 2 bound + 1 - 53) = 2 ^ Int.log 2 bound / 2 ^ 52 := by
      rw [show Int.log 2 bound + 1 - 53 = Int.log 2 bound - 52 by ring, zpow_sub₀ two_ne_zero]
      norm_num
    rw [unit]
    exact div_le_div_of_nonneg_right (by exact_mod_cast low) (by positivity)

/-- What is rounded does not pass zero. -/
theorem nonneg (rounds : Rounds exact number) (forward : 0 ≤ exact) : 0 ≤ valueOf number :=
  rounds.ge_of_ge ⟨0, 0, by decide, by decide, by simp⟩ forward

end Rounds

end LiveFlags
