import LiveFlags.Table

/-!
# JSON values

A JSON value keeps whole numbers of 64 bits, signed or unsigned, apart from all other numbers, which
are doubles. The members of an object are kept in key order with one value per key, so the order in
which a text lists them cannot be told from the value.
-/
namespace LiveFlags.Json

/-- A number: a whole number of 64 bits, or a double. -/
inductive Number where
  /-- A whole number that fits a signed or an unsigned word of 64 bits. -/
  | integer (value : Int) (fits : -9223372036854775808 ≤ value ∧ value < 18446744073709551616)
  /-- Any other number. -/
  | float (value : Float)
  deriving BEq, Repr

namespace Number

/-- The unsigned word as a number. -/
def ofNatural (value : UInt64) : Number :=
  .integer value.toNat ⟨by omega, by have := value.toNat_lt; omega⟩

/-- A signed value as a number, a double if it does not fit. -/
def ofInt (value : Int) : Number :=
  if h : -9223372036854775808 ≤ value ∧ value < 18446744073709551616 then .integer value h
  else .float (Float.ofInt value)

/-- The number as a double, rounded to the nearest if it is whole. -/
def toFloat : Number → Float
  | .integer value _ => if 0 ≤ value then value.toNat.toUInt64.toFloat else -(value.natAbs.toUInt64.toFloat)
  | .float value => value

end Number

/-- A JSON value. -/
inductive Value where
  /-- The value `null`. -/
  | null
  /-- A truth value. -/
  | bool (value : Bool)
  /-- A number. -/
  | number (value : Number)
  /-- A text. -/
  | string (value : String)
  /-- A list of values. -/
  | array (elements : List Value)
  /-- Named values. -/
  | object (members : List (String × Value))
  deriving BEq, Repr, Inhabited

namespace Value

/-- The unsigned word as a value. -/
def natural (value : UInt64) : Value := .number (.ofNatural value)

/-- A double as a value; `null` where JSON has no number for it. -/
def float (value : Float) : Value :=
  if value.isFinite then .number (.float value) else .null

/-- The member of an object, if the value is an object that has it. -/
def member? (value : Value) (name : String) : Option Value :=
  match value with
  | .object members => lookupEntry name members
  | _ => none

end Value

end LiveFlags.Json
