import LiveFlags.Decimal.Reading
import LiveFlags.Toml.Value

/-!
# Reading TOML

Reading a text as a document of TOML 1.0. Reading either succeeds or fails; no reason is kept. Two
limits go beyond the format: arrays and braces nest, and dotted keys run, less than eighty deep. A
number with a fraction or an exponent that is too large is refused if it is positive and is negative
infinity otherwise.

Loops take their bound from the length of the text: every turn takes at least one character.
-/
namespace LiveFlags.Toml

/-- How deep arrays and braces nest and how long dotted keys are, at the least that is refused. -/
def depthLimit : Nat := 80

/-- The character is a blank inside a line. -/
def isBlank (c : Char) : Bool := c = ' ' || c = '\t'

/-- The text from its first character that is not a blank. -/
def skipBlanks (chars : List Char) : List Char := chars.dropWhile isBlank

/-- The character may stand in a comment: a tab, or anything but a control character. -/
def isCommentChar (c : Char) : Bool := c = '\t' || (0x20 ≤ c.val && c.val ≤ 0x7E) || 0x80 ≤ c.val

/-- The text after a comment, if one starts here. -/
def skipComment (chars : List Char) : List Char :=
  match chars with
  | '#' :: rest => rest.dropWhile isCommentChar
  | chars => chars

/-- The text after the end of a line, if the line ends here. -/
def newline? (chars : List Char) : Option (List Char) :=
  match chars with
  | '\n' :: rest => some rest
  | '\r' :: '\n' :: rest => some rest
  | _ => none

/-- The text after the blanks, the comment and the end of a line that has nothing else left. -/
def lineEnd? (chars : List Char) : Option (List Char) :=
  match skipComment (skipBlanks chars) with
  | [] => some []
  | rest => newline? rest

/-- The text after blanks, comments and line ends. -/
def skipLayout : Nat → List Char → List Char
  | 0, chars => chars
  | fuel + 1, chars =>
    let rest := skipComment (skipBlanks chars)
    match newline? rest with
    | some rest => skipLayout fuel rest
    | none => rest

/-- The character of so many hexadecimal digits. -/
def escapedCode? (digits : List Char) : Option Char :=
  let isHex (c : Char) : Bool :=
    isDecimalDigit c || ('a' ≤ c && c ≤ 'f') || ('A' ≤ c && c ≤ 'F')
  let digit (c : Char) : Nat :=
    if isDecimalDigit c then c.toNat - '0'.toNat
    else if 'a' ≤ c then c.toNat - 'a'.toNat + 10
    else c.toNat - 'A'.toNat + 10
  let code := digits.foldl (fun code c => code * 16 + digit c) 0
  if digits.all isHex ∧ (code < 0xD800 ∨ (0xDFFF < code ∧ code < 0x110000)) then
    some (Char.ofNat code)
  else none

/-- Reads an escape from behind its backslash. -/
def escape? (chars : List Char) : Option (Char × List Char) :=
  match chars with
  | 'b' :: rest => some ('\x08', rest)
  | 't' :: rest => some ('\t', rest)
  | 'n' :: rest => some ('\n', rest)
  | 'f' :: rest => some ('\x0c', rest)
  | 'r' :: rest => some ('\r', rest)
  | '"' :: rest => some ('"', rest)
  | '\\' :: rest => some ('\\', rest)
  | 'u' :: rest =>
    if 4 ≤ rest.length then (escapedCode? (rest.take 4)).map fun c => (c, rest.drop 4) else none
  | 'U' :: rest =>
    if 8 ≤ rest.length then (escapedCode? (rest.take 8)).map fun c => (c, rest.drop 8) else none
  | _ => none

/-- Reads the rest of a string on one line, with what has been read in reverse. A string in double
quotes has escapes. -/
def lineString (quote : Char) : Nat → List Char → List Char → Option (String × List Char)
  | 0, _, _ => none
  | fuel + 1, read, chars =>
    match chars with
    | [] => none
    | c :: rest =>
      if c = quote then some (String.ofList read.reverse, rest)
      else if c = '\\' ∧ quote = '"' then do
        let (c, rest) ← escape? rest
        lineString quote fuel (c :: read) rest
      else if isCommentChar c then lineString quote fuel (c :: read) rest
      else none

/-- The text after blanks and line ends. -/
def skipLines : List Char → List Char
  | '\r' :: '\n' :: rest => skipLines rest
  | c :: rest => if isBlank c ∨ c = '\n' then skipLines rest else c :: rest
  | [] => []

/-- The text after a backslash at the end of a line: the blanks and lines up to the next character. -/
def foldedLine? (chars : List Char) : Option (List Char) :=
  (newline? (skipBlanks chars)).map skipLines

/-- Reads the rest of a string over several lines. It ends at three quotes; one or two quotes more
belong to the string. -/
def linesString (quote : Char) : Nat → List Char → List Char → Option (String × List Char)
  | 0, _, _ => none
  | fuel + 1, read, chars =>
    let quotes := (chars.takeWhile (· = quote)).length
    if 3 ≤ quotes then
      if 5 < quotes then none
      else
        some (String.ofList (read.reverse ++ List.replicate (quotes - 3) quote), chars.drop quotes)
    else
      match chars with
      | [] => none
      | '\r' :: '\n' :: rest => linesString quote fuel ('\n' :: read) rest
      | c :: rest =>
        if c = '\\' ∧ quote = '"' then
          match foldedLine? rest with
          | some rest => linesString quote fuel read rest
          | none => do
            let (c, rest) ← escape? rest
            linesString quote fuel (c :: read) rest
        else if c = '\n' ∨ isCommentChar c then linesString quote fuel (c :: read) rest
        else none

/-- Reads a string from its opening quote. -/
def string? (chars : List Char) : Option (String × List Char) :=
  let bound := chars.length + 1
  let lines (quote : Char) (rest : List Char) : Option (String × List Char) :=
    linesString quote bound [] ((newline? rest).getD rest)
  match chars with
  | '"' :: '"' :: '"' :: rest => lines '"' rest
  | '"' :: rest => lineString '"' bound [] rest
  | '\x27' :: '\x27' :: '\x27' :: rest => lines '\x27' rest
  | '\x27' :: rest => lineString '\x27' bound [] rest
  | _ => none

/-- The character may stand in a key without quotes. -/
def isBareKeyChar (c : Char) : Bool := c.isAlphanum || c = '_' || c = '-'

/-- Reads one part of a key. -/
def simpleKey? (chars : List Char) : Option (String × List Char) :=
  match chars with
  | '"' :: rest => lineString '"' (chars.length + 1) [] rest
  | '\x27' :: rest => lineString '\x27' (chars.length + 1) [] rest
  | chars =>
    let key := chars.takeWhile isBareKeyChar
    if key.isEmpty then none else some (String.ofList key, chars.drop key.length)

/-- Reads the parts of a key and the blanks around them. -/
def keyParts : Nat → List Char → Option (List String × List Char)
  | 0, _ => none
  | fuel + 1, chars => do
    let (part, rest) ← simpleKey? (skipBlanks chars)
    match skipBlanks rest with
    | '.' :: rest => do
      let (parts, rest) ← keyParts fuel rest
      return (part :: parts, rest)
    | rest => return ([part], rest)

/-- Reads a key: the path to its table and its last part. -/
def key? (chars : List Char) : Option ((List String × String) × List Char) := do
  let (parts, rest) ← keyParts (chars.length + 1) chars
  if parts.length < depthLimit then return ((parts.dropLast, ← parts.getLast?), rest) else none

/-- Digits with single underscores between them, and the text after them. -/
def digitRun (isDigit : Char → Bool) : List Char → List Char × List Char
  | '_' :: c :: rest =>
    if isDigit c then let (digits, rest) := digitRun isDigit rest; (c :: digits, rest)
    else ([], '_' :: c :: rest)
  | c :: rest =>
    if isDigit c then let (digits, rest) := digitRun isDigit rest; (c :: digits, rest)
    else ([], c :: rest)
  | [] => ([], [])

/-- Reads digits, the first of them without an underscore before it. -/
def digits? (isDigit : Char → Bool) (chars : List Char) : Option (List Char × List Char) :=
  match chars with
  | c :: _ => if isDigit c then some (digitRun isDigit chars) else none
  | [] => none

/-- Reads a sign, if there is one. -/
def sign (chars : List Char) : Bool × List Char :=
  match chars with
  | '-' :: rest => (true, rest)
  | '+' :: rest => (false, rest)
  | chars => (false, chars)

/-- Reads the digits of a decimal number, which begin with zero only if that is all. -/
def wholeDigits? (chars : List Char) : Option (List Char × List Char) :=
  match chars with
  | '0' :: rest => some (['0'], rest)
  | chars => digits? isDecimalDigit chars

/-- Reads a number with a fraction or an exponent, or a name of one. -/
def float? (chars : List Char) : Option (Float × List Char) :=
  let (negative, unsigned) := sign chars
  let signed (value : Float) : Float := if negative then -value else value
  match unsigned with
  | 'i' :: 'n' :: 'f' :: rest => some (signed (1.0 / 0.0), rest)
  | 'n' :: 'a' :: 'n' :: rest => some (signed (0.0 / 0.0), rest)
  | unsigned => do
    let (whole, rest) ← wholeDigits? unsigned
    let (fraction, rest) ← match rest with
      | '.' :: rest => digits? isDecimalDigit rest
      | rest => some ([], rest)
    let (exponent, rest) ← match rest with
      | c :: after =>
        if c = 'e' ∨ c = 'E' then do
          let (negative, digits) := sign after
          let (digits, rest) ← digits? isDecimalDigit digits
          let size : Int := digitsValue digits
          some (some (if negative then -size else size), rest)
        else some ((none : Option Int), rest)
      | [] => some (none, [])
    if fraction.isEmpty ∧ exponent.isNone then none
    else
      let power : Int := exponent.getD 0 - fraction.length
      let value := signed (nearestFloat (digitsValue (whole ++ fraction)) power)
      if value == 1.0 / 0.0 then none else some (value, rest)

/-- The character is a digit below a base of at most sixteen. -/
def isDigitOf (base : Nat) (c : Char) : Bool :=
  if isDecimalDigit c then c.toNat - '0'.toNat < base
  else base = 16 && (('a' ≤ c && c ≤ 'f') || ('A' ≤ c && c ≤ 'F'))

/-- The number of digits in a base of at most sixteen. -/
def valueIn (base : Nat) (digits : List Char) : Nat :=
  digits.foldl (fun value c =>
    value * base +
      (if isDecimalDigit c then c.toNat - '0'.toNat
       else if 'a' ≤ c then c.toNat - 'a'.toNat + 10
       else c.toNat - 'A'.toNat + 10)) 0

/-- A whole number that fits a signed word of 64 bits. -/
def word? (negative : Bool) (size : Nat) (rest : List Char) : Option (Int × List Char) :=
  let value : Int := if negative then -(size : Int) else size
  if -9223372036854775808 ≤ value ∧ value < 9223372036854775808 then some (value, rest) else none

/-- Reads a whole number, in base ten or in another base named at its front. -/
def integer? (chars : List Char) : Option (Int × List Char) :=
  let based (base : Nat) (rest : List Char) : Option (Int × List Char) := do
    let (digits, rest) ← digits? (isDigitOf base) rest
    word? false (valueIn base digits) rest
  match chars with
  | '0' :: 'x' :: rest => based 16 rest
  | '0' :: 'o' :: rest => based 8 rest
  | '0' :: 'b' :: rest => based 2 rest
  | chars => do
    let (negative, unsigned) := sign chars
    let (digits, rest) ← wholeDigits? unsigned
    word? negative (digitsValue digits) rest

/-- Reads a number of exactly so many digits between two bounds. -/
def fixedNumber? (count least greatest : Nat) (chars : List Char) : Option (Nat × List Char) :=
  let digits := chars.take count
  let value := digitsValue digits
  if digits.length = count ∧ digits.all isDecimalDigit ∧ least ≤ value ∧ value ≤ greatest then
    some (value, chars.drop count)
  else none

/-- The text after the given character. -/
def after? (expected : Char) (chars : List Char) : Option (List Char) :=
  match chars with
  | c :: rest => if c = expected then some rest else none
  | [] => none

/-- The number of days in a month. -/
def daysIn (year month : Nat) : Nat :=
  if month = 2 then
    if year % 4 = 0 ∧ (year % 100 ≠ 0 ∨ year % 400 = 0) then 29 else 28
  else if month = 4 ∨ month = 6 ∨ month = 9 ∨ month = 11 then 30
  else 31

/-- The text after a date. -/
def date? (chars : List Char) : Option (List Char) := do
  let (year, rest) ← fixedNumber? 4 0 9999 chars
  let (month, rest) ← fixedNumber? 2 1 12 (← after? '-' rest)
  let (_, rest) ← fixedNumber? 2 1 (daysIn year month) (← after? '-' rest)
  return rest

/-- The text after a time of day. -/
def time? (chars : List Char) : Option (List Char) := do
  let (_, rest) ← fixedNumber? 2 0 23 chars
  let (_, rest) ← fixedNumber? 2 0 59 (← after? ':' rest)
  let (_, rest) ← fixedNumber? 2 0 60 (← after? ':' rest)
  match rest with
  | '.' :: c :: more =>
    if isDecimalDigit c then return more.dropWhile isDecimalDigit else return rest
  | rest => return rest

/-- The text after a distance from Coordinated Universal Time. -/
def offset? (chars : List Char) : Option (List Char) :=
  match chars with
  | 'Z' :: rest => some rest
  | 'z' :: rest => some rest
  | c :: rest =>
    if c = '+' ∨ c = '-' then do
      let (_, rest) ← fixedNumber? 2 0 23 rest
      let (_, rest) ← fixedNumber? 2 0 59 (← after? ':' rest)
      return rest
    else none
  | [] => none

/-- Reads a date, a time of day, or both with or without a distance from Coordinated Universal Time. -/
def dateTime? (chars : List Char) : Option (String × List Char) :=
  let rest? : Option (List Char) :=
    match date? chars with
    | none => time? chars
    | some rest =>
      match rest with
      | c :: afterDate =>
        if c = 'T' ∨ c = 't' ∨ c = ' ' then
          match time? afterDate with
          | none => some rest
          | some rest => some ((offset? rest).getD rest)
        else some rest
      | [] => some rest
  rest?.map fun rest => (String.ofList (chars.take (chars.length - rest.length)), rest)

/-- Reads a number or a date. -/
def numeral? (chars : List Char) : Option (Value × List Char) :=
  match dateTime? chars with
  | some (text, rest) => some (.dateTime text, rest)
  | none =>
    match float? chars with
    | some (value, rest) => some (.float value, rest)
    | none => (integer? chars).map fun (value, rest) => (.integer value, rest)

mutual

/-- Reads a value inside `depth` arrays and braces. -/
def value? (depth : Nat) : Nat → List Char → Option (Value × List Char)
  | 0, _ => none
  | fuel + 1, chars =>
    match chars with
    | '"' :: _ => (string? chars).map fun (text, rest) => (.string text, rest)
    | '\x27' :: _ => (string? chars).map fun (text, rest) => (.string text, rest)
    | '[' :: rest =>
      if depth + 1 < depthLimit then array? (depth + 1) fuel [] rest else none
    | '\x7b' :: rest =>
      if depth + 1 < depthLimit then
        match skipBlanks rest with
        | '\x7d' :: rest => some (.inline [], rest)
        | rest => inline? (depth + 1) fuel [] rest
      else none
    | 't' :: 'r' :: 'u' :: 'e' :: rest => some (.boolean true, rest)
    | 'f' :: 'a' :: 'l' :: 's' :: 'e' :: rest => some (.boolean false, rest)
    | chars => numeral? chars

/-- Reads the rest of an array, with the elements so far in reverse. -/
def array? (depth : Nat) : Nat → List Value → List Char → Option (Value × List Char)
  | 0, _, _ => none
  | fuel + 1, read, chars =>
    match skipLayout fuel chars with
    | ']' :: rest => some (.array read.reverse, rest)
    | chars =>
      match value? depth fuel chars with
      | none => none
      | some (element, rest) =>
        match skipLayout fuel rest with
        | ',' :: rest => array? depth fuel (element :: read) rest
        | ']' :: rest => some (.array (element :: read).reverse, rest)
        | _ => none

/-- Reads an entry of a brace and those after it, with the entries so far. -/
def inline? (depth : Nat) : Nat → Entries → List Char → Option (Value × List Char)
  | 0, _, _ => none
  | fuel + 1, read, chars =>
    match key? chars with
    | some ((path, key), '=' :: rest) =>
      match value? depth fuel (skipBlanks rest) with
      | none => none
      | some (value, rest) =>
        match read.addEntry path key value with
        | none => none
        | some read =>
          match skipBlanks rest with
          | ',' :: rest => inline? depth fuel read rest
          | '\x7d' :: rest => some (.inline read, rest)
          | _ => none
    | _ => none

end

/-- A document so far: its entries and the path of the last header. -/
structure Document where
  /-- The entries of the document. -/
  entries : Entries
  /-- The path of the table that lines belong to. -/
  header : List String

/-- Reads one line. -/
def line? (document : Document) (chars : List Char) : Option (Document × List Char) :=
  match skipBlanks chars with
  | '[' :: '[' :: rest =>
    match key? rest with
    | some ((path, key), ']' :: ']' :: rest) => do
      let entries ← document.entries.openElement path key
      return (⟨entries, path ++ [key]⟩, ← lineEnd? rest)
    | _ => none
  | '[' :: rest =>
    match key? rest with
    | some ((path, key), ']' :: rest) => do
      let entries ← document.entries.openTable path key
      return (⟨entries, path ++ [key]⟩, ← lineEnd? rest)
    | _ => none
  | chars =>
    match lineEnd? chars with
    | some rest => some (document, rest)
    | none =>
      match key? chars with
      | some ((path, key), '=' :: rest) => do
        let (value, rest) ← value? 0 (rest.length + 1) (skipBlanks rest)
        let entries ← document.entries.addEntryUnder document.header path key value
        return (⟨entries, document.header⟩, ← lineEnd? rest)
      | _ => none

/-- Reads the lines of a document. -/
def lines? : Nat → Document → List Char → Option Entries
  | _, document, [] => some document.entries
  | 0, _, _ => none
  | fuel + 1, document, chars => do
    let (document, rest) ← line? document chars
    lines? fuel document rest

/-- Reads a text as a document; a byte order mark at its front is passed over. -/
def parse? (text : String) : Option Entries :=
  let chars := match text.toList with
    | '\uFEFF' :: rest => rest
    | chars => chars
  lines? (chars.length + 1) ⟨[], []⟩ chars

end LiveFlags.Toml
