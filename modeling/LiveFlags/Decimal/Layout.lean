import LiveFlags.Decimal.Shortest

/-!
# Layouts of decimal numbers

A layout says how the digits of a number are set: which powers of ten are written positionally and
which with an exponent, and what marks a whole number as one with a fraction. `Layout.positional`
never uses an exponent and writes whole numbers bare; `Layout.compact` keeps a point in every
positional number and turns to an exponent outside five leading zeros and sixteen whole digits.
-/
namespace LiveFlags

/-- How the digits of a number are set. -/
structure Layout where
  /-- The least and the greatest power of ten of a first digit that is set positionally; none if
  every number is. -/
  positionalFrom : Option (Int × Int)
  /-- What follows a whole number that is set positionally. -/
  wholeMark : String
  /-- What stands for a value that is not a number. -/
  notANumber : String
  /-- What stands for infinity. -/
  infinity : String
  deriving DecidableEq, Repr

namespace Layout

/-- Every digit in its place, whole numbers bare. -/
def positional : Layout := ⟨none, "", "NaN", "inf"⟩

/-- Positional from `0.00001` to sixteen whole digits, with an exponent outside. -/
def compact : Layout := ⟨some (-5, 15), ".0", "NaN", "inf"⟩

/-- The digits in their places, with zeros where the decimal has none. -/
def setPositional (layout : Layout) (digits : List Char) (exponent : Int) : List Char :=
  if 0 ≤ exponent then
    digits ++ List.replicate exponent.toNat '0' ++ layout.wholeMark.toList
  else
    let places := (-exponent).toNat
    if places < digits.length then
      digits.take (digits.length - places) ++ '.' :: digits.drop (digits.length - places)
    else
      '0' :: '.' :: List.replicate (places - digits.length) '0' ++ digits

/-- One digit, a point before the others if there are any, and the signed power of ten. -/
def setScientific (digits : List Char) (power : Int) : List Char :=
  let mantissa :=
    match digits with
    | [] => []
    | [digit] => [digit]
    | digit :: more => digit :: '.' :: more
  mantissa ++ 'e' :: (if 0 ≤ power then '+' else '-') :: Nat.toDigits 10 power.natAbs

/-- A decimal number without its sign. -/
def setDecimal (layout : Layout) (decimal : Decimal) : List Char :=
  let digits := Nat.toDigits 10 decimal.coefficient
  let power := decimal.exponent + digits.length - 1
  match layout.positionalFrom with
  | none => layout.setPositional digits decimal.exponent
  | some (least, greatest) =>
    if least ≤ power ∧ power ≤ greatest then layout.setPositional digits decimal.exponent
    else setScientific digits power

/-- The shortest digits of a number that read back, set by the layout. -/
def render (layout : Layout) (value : Float) : String :=
  match BinaryParts.ofFloat? value with
  | some parts =>
    let unsigned := layout.setDecimal (Decimal.shortest parts)
    String.ofList (if parts.negative then '-' :: unsigned else unsigned)
  | none =>
    if value.isNaN then layout.notANumber
    else if 0.0 < value then layout.infinity
    else "-" ++ layout.infinity

end Layout

end LiveFlags
