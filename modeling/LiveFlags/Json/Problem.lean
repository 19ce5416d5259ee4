import LiveFlags.Decimal.Layout
import LiveFlags.Text.Quoted

/-!
# Why a text is not the JSON of what was asked for

Reading stops at the first problem. Either the text breaks the grammar or a limit of it, or a value
stands where one of another shape was expected; `Problem.message` words both.
-/
namespace LiveFlags.Json

/-- What stands where something else was expected. -/
inductive Found where
  /-- The value `null`. -/
  | null
  /-- A truth value. -/
  | bool (value : Bool)
  /-- A whole number of 64 bits. -/
  | integer (value : Int)
  /-- A double. -/
  | float (value : Float)
  /-- A text. -/
  | string (value : String)
  /-- The start of an array. -/
  | sequence
  /-- The start of an object. -/
  | map
  deriving Repr

/-- The found thing in words. -/
def Found.describe : Found → String
  | .null => "null"
  | .bool value => s!"boolean `{value}`"
  | .integer value => s!"integer `{value}`"
  | .float value => "floating point `" ++ Layout.compact.render value ++ "`"
  | .string value => "string " ++ Text.quote value
  | .sequence => "sequence"
  | .map => "map"

/-- The first thing wrong with a text. -/
inductive Problem where
  /-- The text is not JSON, or nests too deeply, or holds a number beyond the doubles. -/
  | malformed
  /-- A record lacks a field. -/
  | missingField (name : String)
  /-- A record names a field twice. -/
  | duplicateField (name : String)
  /-- A value has the wrong type. -/
  | wrongType (found : Found) (expected : String)
  /-- A value of the right type lies outside the expected range. -/
  | wrongValue (found : Found) (expected : String)
  /-- A record written as an array ends too early. -/
  | wrongLength (length : Nat) (expected : String)
  /-- A value is of none of the kinds that were tried. -/
  | noVariant (title : String)
  deriving Repr

/-- The problem in words. -/
def Problem.message : Problem → String
  | .malformed => "<syntax>"
  | .missingField name => "missing field `" ++ name ++ "`"
  | .duplicateField name => "duplicate field `" ++ name ++ "`"
  | .wrongType found expected => "invalid type: " ++ found.describe ++ ", expected " ++ expected
  | .wrongValue found expected => "invalid value: " ++ found.describe ++ ", expected " ++ expected
  | .wrongLength length expected => s!"invalid length {length}, expected " ++ expected
  | .noVariant title => "data did not match any variant of untagged enum " ++ title

end LiveFlags.Json
