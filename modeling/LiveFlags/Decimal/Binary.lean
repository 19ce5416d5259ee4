/-!
# The parts of a binary number

A finite double is a sign and a whole mantissa times a power of two. The parts are read off the bits
of the number, so statements about them need nothing of floating-point arithmetic.
-/
namespace LiveFlags

/-- A finite double: `mantissa · 2 ^ exponent`, negated if `negative`. -/
structure BinaryParts where
  /-- Whether the sign bit is set, also on a zero. -/
  negative : Bool
  /-- The whole mantissa, below `2 ^ 53`. -/
  mantissa : Nat
  /-- The power of two. -/
  exponent : Int
  /-- Whether the neighbour below lies only half as far away as the neighbour above. -/
  narrowBelow : Bool
  deriving DecidableEq, Repr

/-- The parts of a finite double; none for an infinity or a value that is not a number. -/
def BinaryParts.ofFloat? (value : Float) : Option BinaryParts :=
  let bits := value.toBits.toNat
  let fraction : Nat := bits % 4503599627370496
  let biased : Nat := bits / 4503599627370496 % 2048
  let negative := decide (9223372036854775808 ≤ bits)
  if biased = 2047 then none
  else if biased = 0 then some ⟨negative, fraction, -1074, false⟩
  else some ⟨negative, 4503599627370496 + fraction, (biased : Int) - 1075, fraction = 0 ∧ 1 < biased⟩

end LiveFlags
