import LiveFlags.Json.Problem
import LiveFlags.Json.Value
import LiveFlags.Text.Utf8

/-!
# Reading JSON

A reader takes what it reads off the front of its input and hands on the rest, or stops at the first
problem from the left. The input is a list of characters in which `none` stands for bytes that are
no character: such bytes are refused wherever a text is read, and passed over only inside a value that
is skipped.

* `value` reads any value. Arrays and objects nest at most `maxDepth` deep.
* `skip` passes over a value that nobody asked for. It checks the grammar alone: neither depth, nor
  the range of numbers, nor halves of surrogate pairs matter there.
* `number` reads a number that is not whole with the digits that fit 64 bits and one multiplication
  or division by a power of ten.

Loops take their bound from the length of the input: every turn takes at least one character.
-/
namespace LiveFlags.Json

/-- The characters still to be read; `none` is a stretch of bytes that is no character. -/
abbrev Input := List (Option Char)

/-- A reader of one thing. -/
abbrev Reader := StateT Input (Except Problem)

/-- The characters of a text. -/
def Input.ofText (text : String) : Input := text.toList.map some

/-- The characters that bytes encode. -/
def Input.ofBytes (bytes : List UInt8) : Input := Text.Utf8.decode bytes

/-- How deep arrays and objects may nest. -/
def maxDepth : Nat := 127

/-- The character is white space between tokens. -/
def isSpace (symbol : Option Char) : Bool :=
  symbol = some ' ' || symbol = some '\n' || symbol = some '\t' || symbol = some '\r'

/-- The input from its first character that is not white space. -/
def skipSpace (input : Input) : Input := input.dropWhile isSpace

/-- The value of a hexadecimal digit. -/
def hexValue? (symbol : Option Char) : Option Nat :=
  match symbol with
  | none => none
  | some c =>
    if '0' ≤ c ∧ c ≤ '9' then some (c.toNat - '0'.toNat)
    else if 'a' ≤ c ∧ c ≤ 'f' then some (c.toNat - 'a'.toNat + 10)
    else if 'A' ≤ c ∧ c ≤ 'F' then some (c.toNat - 'A'.toNat + 10)
    else none

/-- The value of four hexadecimal digits. -/
def hexUnit? (a b c d : Option Char) : Option Nat := do
  let a ← hexValue? a
  let b ← hexValue? b
  let c ← hexValue? c
  let d ← hexValue? d
  return ((a * 16 + b) * 16 + c) * 16 + d

/-- The character that a one-letter escape stands for. -/
def escapedChar? (letter : Char) : Option Char :=
  match letter with
  | '"' => some '"'
  | '\\' => some '\\'
  | '/' => some '/'
  | 'b' => some '\x08'
  | 'f' => some '\x0c'
  | 'n' => some '\n'
  | 'r' => some '\r'
  | 't' => some '\t'
  | _ => none

/-- The rest of a string after its opening quote, with the characters read so far in reverse. -/
def stringRest (read : List Char) : Input → Except Problem (String × Input)
  | [] => .error .malformed
  | none :: _ => .error .malformed
  | some '"' :: rest => .ok (String.ofList read.reverse, rest)
  | some '\\' :: some 'u' :: a :: b :: c :: d :: rest =>
    match hexUnit? a b c d with
    | none => .error .malformed
    | some unit =>
      if unit < 0xD800 ∨ 0xDFFF < unit then stringRest (Char.ofNat unit :: read) rest
      else if 0xDBFF < unit then .error .malformed
      else
        match rest with
        | some '\\' :: some 'u' :: a :: b :: c :: d :: rest =>
          match hexUnit? a b c d with
          | none => .error .malformed
          | some low =>
            if 0xDC00 ≤ low ∧ low ≤ 0xDFFF then
              let code := 0x10000 + (unit - 0xD800) * 0x400 + (low - 0xDC00)
              stringRest (Char.ofNat code :: read) rest
            else .error .malformed
        | _ => .error .malformed
  | some '\\' :: some letter :: rest =>
    match escapedChar? letter with
    | some c => stringRest (c :: read) rest
    | none => .error .malformed
  | some c :: rest =>
    if c = '\\' ∨ c.toNat < 0x20 then .error .malformed else stringRest (c :: read) rest

/-- A string whose opening quote has been read. -/
def stringTail : Reader String := fun input => stringRest [] input

/-- The input after a string that is passed over, from behind its opening quote. -/
def skipString : Input → Except Problem Input
  | [] => .error .malformed
  | some '"' :: rest => .ok rest
  | some '\\' :: some 'u' :: a :: b :: c :: d :: rest =>
    match hexUnit? a b c d with
    | some _ => skipString rest
    | none => .error .malformed
  | some '\\' :: some letter :: rest =>
    match escapedChar? letter with
    | some _ => skipString rest
    | none => .error .malformed
  | none :: rest => skipString rest
  | some c :: rest =>
    if c = '\\' ∨ c.toNat < 0x20 then .error .malformed else skipString rest

/-- The digit that a character stands for. -/
def digit? (symbol : Option Char) : Option Nat :=
  match symbol with
  | some c => if '0' ≤ c ∧ c ≤ '9' then some (c.toNat - '0'.toNat) else none
  | none => none

/-- The digits at the front of the input, and what follows them. -/
def spanDigits : Input → List Nat × Input
  | [] => ([], [])
  | symbol :: rest =>
    match digit? symbol with
    | some digit => let (digits, rest) := spanDigits rest; (digit :: digits, rest)
    | none => ([], symbol :: rest)

/-- A number as it is written: its sign, its whole digits, the digits after the point and the power of
ten, each of the last two if it is there. -/
structure NumberText where
  /-- Whether a minus sign stands before it. -/
  negative : Bool
  /-- The digits before the point. -/
  whole : List Nat
  /-- The digits after the point. -/
  fraction : Option (List Nat)
  /-- The sign and the digits of the power of ten. -/
  exponent : Option (Bool × List Nat)
  deriving Repr

/-- Reads a number as it is written, from behind its minus sign. -/
def numberText (negative : Bool) : Reader NumberText := fun input =>
  let (whole, rest) := spanDigits input
  if whole.isEmpty || (whole.head? = some 0 && 1 < whole.length) then .error .malformed
  else
    let (fraction, rest) := match rest with
      | some '.' :: rest => let (digits, rest) := spanDigits rest; (some digits, rest)
      | rest => (none, rest)
    if fraction = some [] then .error .malformed
    else
      let (exponent, rest) := match rest with
        | some letter :: after =>
          if letter = 'e' ∨ letter = 'E' then
            let (negative, digits) := match after with
              | some '+' :: digits => (false, digits)
              | some '-' :: digits => (true, digits)
              | digits => (false, digits)
            let (digits, rest) := spanDigits digits
            (some (negative, digits), rest)
          else (none, rest)
        | rest => (none, rest)
      if exponent.any (·.2.isEmpty) then .error .malformed
      else .ok (⟨negative, whole, fraction, exponent⟩, rest)

/-- The leading digits that fit an unsigned word of 64 bits, added to the digits read so far, and the
digits left over. -/
def takeWord (word : Nat) : List Nat → Nat × List Nat
  | [] => (word, [])
  | digit :: rest =>
    if word * 10 + digit < 18446744073709551616 then takeWord (word * 10 + digit) rest else (word, digit :: rest)

/-- The double nearest to a power of ten from `10 ^ 0` to `10 ^ 308`. -/
def powerOfTen (exponent : Nat) : Float := Float.ofScientific 1 false exponent

/-- A double times a power of ten: one multiplication or division for powers up to 308, with
divisions by `10 ^ 308` before it for smaller ones. Fails beyond the doubles. -/
def scaleByPower (value : Float) (exponent : Int) : Option Float :=
  if exponent.natAbs ≤ 308 then
    if 0 ≤ exponent then
      let scaled := value * powerOfTen exponent.natAbs
      if scaled.isInf then none else some scaled
    else some (value / powerOfTen exponent.natAbs)
  else if value == 0.0 then some value
  else if 0 ≤ exponent then none
  else scaleByPower (value / powerOfTen 308) (exponent + 308)
termination_by exponent.natAbs
decreasing_by omega

/-- The value of a number that is not whole, or too large for a word. -/
def NumberText.toFloat? (text : NumberText) : Option Float :=
  let (word, wholeLeft) := takeWord 0 text.whole
  let fraction := text.fraction.getD []
  let (word, fractionLeft) := takeWord word fraction
  let taken : Int := fraction.length - fractionLeft.length
  let base : Int := wholeLeft.length - taken
  let unsigned : Option Float := match text.exponent with
    | none => scaleByPower word.toUInt64.toFloat base
    | some (negative, digits) =>
      let size : Nat := digits.foldl (fun size digit => size * 10 + digit) 0
      if 2147483648 ≤ size then
        if word ≠ 0 ∧ ¬ negative then none else some 0.0
      else
        let exponent : Int := if negative then base - (size : Int) else base + (size : Int)
        scaleByPower word.toUInt64.toFloat exponent
  unsigned.map fun value => if text.negative then -value else value

/-- The value of a number: whole if it is written so, fits 64 bits and is not minus zero. -/
def NumberText.toNumber? (text : NumberText) : Option Number :=
  if text.fraction.isNone ∧ text.exponent.isNone then
    let (word, left) := takeWord 0 text.whole
    let value : Int := if text.negative then -(word : Int) else word
    if h : left = [] ∧ ¬ (text.negative = true ∧ word = 0) ∧ -9223372036854775808 ≤ value ∧ value < 18446744073709551616 then
      some (.integer value h.2.2)
    else text.toFloat?.map .float
  else text.toFloat?.map .float

/-- Reads a number from behind its minus sign. -/
def numberTail (negative : Bool) : Reader Number := fun input => do
  let (text, rest) ← numberText negative input
  match text.toNumber? with
  | some number => .ok (number, rest)
  | none => .error .malformed

/-- The input after the given word. -/
def word (letters : List Char) : Input → Except Problem Input
  | input =>
    match letters with
    | [] => .ok input
    | letter :: letters =>
      match input with
      | symbol :: rest => if symbol = some letter then word letters rest else .error .malformed
      | [] => .error .malformed

mutual

/-- Reads a value whose arrays and objects may nest `depth` deep. -/
def valueWithin (depth : Nat) (fuel : Nat) (input : Input) : Except Problem (Value × Input) :=
  match fuel with
  | 0 => .error .malformed
  | fuel + 1 =>
    match skipSpace input with
    | some 'n' :: rest => do .ok (.null, ← word ['u', 'l', 'l'] rest)
    | some 't' :: rest => do .ok (.bool true, ← word ['r', 'u', 'e'] rest)
    | some 'f' :: rest => do .ok (.bool false, ← word ['a', 'l', 's', 'e'] rest)
    | some '"' :: rest => do let (text, rest) ← stringTail rest; .ok (.string text, rest)
    | some '-' :: rest => do let (number, rest) ← numberTail true rest; .ok (.number number, rest)
    | some '[' :: rest =>
      match depth with
      | 0 => .error .malformed
      | depth + 1 =>
        match skipSpace rest with
        | some ']' :: rest => .ok (.array [], rest)
        | rest => elementsWithin depth fuel [] rest
    | some '\x7b' :: rest =>
      match depth with
      | 0 => .error .malformed
      | depth + 1 =>
        match skipSpace rest with
        | some '\x7d' :: rest => .ok (.object [], rest)
        | rest => membersWithin depth fuel [] rest
    | rest => do let (number, rest) ← numberTail false rest; .ok (.number number, rest)

/-- Reads an element of an array and those after it, with the elements so far in reverse. -/
def elementsWithin (depth : Nat) (fuel : Nat) (read : List Value) (input : Input) :
    Except Problem (Value × Input) :=
  match fuel with
  | 0 => .error .malformed
  | fuel + 1 =>
    match valueWithin depth fuel input with
    | .error problem => .error problem
    | .ok (element, rest) =>
      match skipSpace rest with
      | some ',' :: rest => elementsWithin depth fuel (element :: read) rest
      | some ']' :: rest => .ok (.array (element :: read).reverse, rest)
      | _ => .error .malformed

/-- Reads a member of an object and those after it, with the members so far in key order. -/
def membersWithin (depth : Nat) (fuel : Nat) (read : List (String × Value)) (input : Input) :
    Except Problem (Value × Input) :=
  match fuel with
  | 0 => .error .malformed
  | fuel + 1 =>
    match skipSpace input with
    | some '"' :: rest =>
      match stringTail rest with
      | .error problem => .error problem
      | .ok (name, rest) =>
        match skipSpace rest with
        | some ':' :: rest =>
          match valueWithin depth fuel rest with
          | .error problem => .error problem
          | .ok (value, rest) =>
            match skipSpace rest with
            | some ',' :: rest => membersWithin depth fuel (insertEntry name value read) rest
            | some '\x7d' :: rest => .ok (.object (insertEntry name value read), rest)
            | _ => .error .malformed
        | _ => .error .malformed
    | _ => .error .malformed

end

/-- Reads a value inside `outer` arrays and objects. -/
def value (outer : Nat) : Reader Value := fun input =>
  valueWithin (maxDepth - outer) (input.length + 1) input

mutual

/-- The input after a value that is passed over. -/
def skipWithin (fuel : Nat) (input : Input) : Except Problem Input :=
  match fuel with
  | 0 => .error .malformed
  | fuel + 1 =>
    match skipSpace input with
    | some 'n' :: rest => word ['u', 'l', 'l'] rest
    | some 't' :: rest => word ['r', 'u', 'e'] rest
    | some 'f' :: rest => word ['a', 'l', 's', 'e'] rest
    | some '"' :: rest => skipString rest
    | some '-' :: rest => (numberText true rest).map (·.2)
    | some '[' :: rest =>
      match skipSpace rest with
      | some ']' :: rest => .ok rest
      | rest => skipElements fuel rest
    | some '\x7b' :: rest =>
      match skipSpace rest with
      | some '\x7d' :: rest => .ok rest
      | rest => skipMembers fuel rest
    | rest => (numberText false rest).map (·.2)

/-- The input after an element of an array and those after it. -/
def skipElements (fuel : Nat) (input : Input) : Except Problem Input :=
  match fuel with
  | 0 => .error .malformed
  | fuel + 1 =>
    match skipWithin fuel input with
    | .error problem => .error problem
    | .ok rest =>
      match skipSpace rest with
      | some ',' :: rest => skipElements fuel rest
      | some ']' :: rest => .ok rest
      | _ => .error .malformed

/-- The input after a member of an object and those after it. -/
def skipMembers (fuel : Nat) (input : Input) : Except Problem Input :=
  match fuel with
  | 0 => .error .malformed
  | fuel + 1 =>
    match skipSpace input with
    | some '"' :: rest =>
      match skipString rest with
      | .error problem => .error problem
      | .ok rest =>
        match skipSpace rest with
        | some ':' :: rest =>
          match skipWithin fuel rest with
          | .error problem => .error problem
          | .ok rest =>
            match skipSpace rest with
            | some ',' :: rest => skipMembers fuel rest
            | some '\x7d' :: rest => .ok rest
            | _ => .error .malformed
        | _ => .error .malformed
    | _ => .error .malformed

end

/-- Passes over a value. -/
def skip : Reader Unit := fun input => do
  .ok ((), ← skipWithin (input.length + 1) input)

/-- Reads one thing that is the whole input but for white space around it. -/
def Reader.run {α : Type} (reader : Reader α) (input : Input) : Except Problem α := do
  let (result, rest) ← reader input
  if (skipSpace rest).isEmpty then .ok result else .error .malformed

/-- Reads a text that is one value. -/
def parse (text : String) : Except Problem Value :=
  Reader.run (value 0) (Input.ofText text)

end LiveFlags.Json
