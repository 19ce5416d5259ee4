import LiveFlags.Json.Printer

/-!
# Flag values

A flag is on or off, a text, or any other JSON value. Payloads carry plain JSON: a truth value or a
text becomes a flag of that kind and everything else a JSON flag (`FlagValue.ofJson`), and writing a
flag gives back the plain value (`toJson_ofJson`). A payload is decoded by trying the three kinds in
their order (`FlagValue.decode?`). A JSON flag may also be built around a truth value or a text; written
and read again it changes its kind.
-/
namespace LiveFlags

/-- The value of a flag. -/
inductive FlagValue where
  /-- A flag that is on or off. -/
  | boolean (on : Bool)
  /-- A flag that holds a text. -/
  | text (value : String)
  /-- A flag that holds a JSON value. -/
  | json (value : Json.Value)
  deriving BEq, Repr, Inhabited

namespace FlagValue

/-- The flag that a plain JSON value stands for. -/
def ofJson : Json.Value → FlagValue
  | .bool on => .boolean on
  | .string value => .text value
  | value => .json value

/-- The flag as plain JSON. -/
def toJson : FlagValue → Json.Value
  | .boolean on => .bool on
  | .text value => .string value
  | .json value => value

/-- A truth value is taken for a flag that is on or off. -/
def takeBoolean? : Json.Value → Option FlagValue
  | .bool on => some (.boolean on)
  | _ => none

/-- A text is taken for a flag that holds it. -/
def takeText? : Json.Value → Option FlagValue
  | .string value => some (.text value)
  | _ => none

/-- Any value is taken for a JSON flag. -/
def takeJson? (value : Json.Value) : Option FlagValue := some (.json value)

/-- The flag of the first kind that takes the value. -/
def decode? (value : Json.Value) : Option FlagValue :=
  [takeBoolean?, takeText?, takeJson?].findSome? fun take => take value

/-- The flag as text, by its kind. -/
def serialize : FlagValue → String
  | .boolean true => "true"
  | .boolean false => "false"
  | .text value => Json.printString value
  | .json value => value.print

/-- Whether the flag is on, if it is on or off. -/
def asBool? : FlagValue → Option Bool
  | .boolean on => some on
  | _ => none

/-- The text of the flag, if it holds one. -/
def asText? : FlagValue → Option String
  | .text value => some value
  | _ => none

/-- The JSON value of the flag, if it holds one. -/
def asJson? : FlagValue → Option Json.Value
  | .json value => some value
  | _ => none

/-- The name of the kind of the flag. -/
def kind : FlagValue → String
  | .boolean _ => "boolean"
  | .text _ => "string"
  | .json _ => "json"

/-- Writing the flag that a plain value stands for gives the value back. -/
@[simp] theorem toJson_ofJson (value : Json.Value) : (ofJson value).toJson = value := by
  cases value <;> rfl

/-- Every value is decoded, as the flag that it stands for. -/
theorem decode?_eq (value : Json.Value) : decode? value = some (ofJson value) := by
  cases value <;> rfl

/-- A flag is written as its plain JSON. -/
theorem serialize_eq (flag : FlagValue) : flag.serialize = flag.toJson.print := by
  cases flag with
  | boolean on => cases on <;> rfl
  | text value => rfl
  | json value => rfl

end FlagValue

end LiveFlags
