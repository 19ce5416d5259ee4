import LiveFlags.Decimal.Layout
import LiveFlags.Json.Value

/-!
# Writing JSON

The compact text of a value: no blanks, members in the order of the value, doubles in the shortest
digits that read back. Inside a string only the quote, the backslash and the control characters
below the space are escaped.
-/
namespace LiveFlags.Json

/-- The digit of a number below sixteen. -/
def hexDigit (value : Nat) : Char :=
  Nat.digitChar (value % 16)

/-- The form of one character inside a string. -/
def stringChar (c : Char) : List Char :=
  match c with
  | '"' => ['\\', '"']
  | '\\' => ['\\', '\\']
  | '\x08' => ['\\', 'b']
  | '\x0c' => ['\\', 'f']
  | '\n' => ['\\', 'n']
  | '\r' => ['\\', 'r']
  | '\t' => ['\\', 't']
  | c =>
    if c.toNat < 0x20 then ['\\', 'u', '0', '0', hexDigit (c.toNat / 16), hexDigit c.toNat]
    else [c]

/-- A text as a JSON string. -/
def printString (text : String) : String :=
  String.ofList ('"' :: text.toList.flatMap stringChar ++ ['"'])

/-- A number; a double that JSON cannot express is written as `null`. -/
def Number.print : Number → String
  | .integer value _ => toString value
  | .float value => if value.isFinite then Layout.compact.render value else "null"

mutual

/-- The compact text of a value. -/
def Value.print : Value → String
  | .null => "null"
  | .bool true => "true"
  | .bool false => "false"
  | .number value => value.print
  | .string value => printString value
  | .array elements => "[" ++ printElements elements ++ "]"
  | .object members => "\x7b" ++ printMembers members ++ "\x7d"

/-- The elements of an array with commas between them. -/
def printElements : List Value → String
  | [] => ""
  | [element] => element.print
  | element :: next :: rest => element.print ++ "," ++ printElements (next :: rest)

/-- The members of an object with commas between them. -/
def printMembers : List (String × Value) → String
  | [] => ""
  | [(name, value)] => printString name ++ ":" ++ value.print
  | (name, value) :: next :: rest =>
    printString name ++ ":" ++ value.print ++ "," ++ printMembers (next :: rest)

end

end LiveFlags.Json
