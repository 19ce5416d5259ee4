/-!
# Reading numbers

Readers of the two number forms that settings are written in. `readNatural?` takes decimal digits
with an optional plus sign and refuses a number that does not fit 64 bits. `readFloat?` takes a
decimal number with an optional fraction and exponent, or a name of infinity or of the value that is
no number, in any case of letters, and rounds to the nearest double: beyond the greatest double that
is infinity, below half the least one zero.
-/
namespace LiveFlags

/-- The number that decimal digits write, most significant first. -/
def digitsValue (digits : List Char) : Nat :=
  digits.foldl (fun value digit => value * 10 + (digit.toNat - '0'.toNat)) 0

/-- The character is one of the ten decimal digits. -/
def isDecimalDigit (c : Char) : Bool :=
  '0' ≤ c && c ≤ '9'

/-- A whole number of at most 64 bits, with an optional plus sign. -/
def readNatural? (chars : List Char) : Option UInt64 :=
  let digits := match chars with
    | '+' :: digits => digits
    | digits => digits
  if digits.isEmpty || !digits.all isDecimalDigit then none
  else
    let value := digitsValue digits
    if value < 18446744073709551616 then some (UInt64.ofNat value) else none

/-- The double nearest to `coefficient · 10 ^ exponent`; infinity beyond the greatest. -/
def nearestFloat (coefficient : Nat) (exponent : Int) : Float :=
  let digits := (Nat.toDigits 10 coefficient).length
  if coefficient = 0 then 0.0
  else if exponent + digits < -330 then 0.0
  else if 310 < exponent + digits then 1.0 / 0.0
  else Float.ofScientific coefficient (exponent < 0) exponent.natAbs

/-- The digits at the front, and what follows them. -/
def spanDigits (chars : List Char) : List Char × List Char :=
  (chars.takeWhile isDecimalDigit, chars.dropWhile isDecimalDigit)

/-- The power of ten after the letter that announces it; zero if the text ends before the letter. -/
def readExponent? (chars : List Char) : Option Int :=
  match chars with
  | [] => some 0
  | letter :: rest =>
    if letter ≠ 'e' ∧ letter ≠ 'E' then none
    else
      let (negative, digits) := match rest with
        | '-' :: digits => (true, digits)
        | '+' :: digits => (false, digits)
        | digits => (false, digits)
      if digits.isEmpty || !digits.all isDecimalDigit then none
      else
        let size : Int := digitsValue digits
        some (if negative then -size else size)

/-- A decimal number without a sign: digits, a fraction and an exponent, with a digit somewhere
before the exponent. -/
def readUnsigned? (chars : List Char) : Option Float :=
  let (whole, rest) := spanDigits chars
  let (fraction, rest) := match rest with
    | '.' :: rest => spanDigits rest
    | rest => ([], rest)
  if whole.isEmpty && fraction.isEmpty then none
  else
    (readExponent? rest).map fun exponent =>
      nearestFloat (digitsValue (whole ++ fraction)) (exponent - fraction.length)

/-- The value that a name stands for, in any case of its letters. -/
def namedFloat? (chars : List Char) : Option Float :=
  let name := String.ofList (chars.map Char.toLower)
  if name = "inf" ∨ name = "infinity" then some (1.0 / 0.0)
  else if name = "nan" then some (0.0 / 0.0)
  else none

/-- A number with a fraction, an exponent or a name, after an optional sign. -/
def readFloat? (chars : List Char) : Option Float :=
  let (negative, rest) := match chars with
    | '-' :: rest => (true, rest)
    | '+' :: rest => (false, rest)
    | rest => (false, rest)
  ((namedFloat? rest).orElse fun _ => readUnsigned? rest).map fun value =>
    if negative then -value else value

end LiveFlags
