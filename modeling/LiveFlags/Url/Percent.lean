import LiveFlags.Text.Utf8

/-!
# Percent encoding

Each part of an address has a set of characters that it cannot hold as they are; such a character
stands as the bytes of its UTF-8 form, each written as a percent sign and two upper-case hexadecimal
digits. The sets differ from part to part, and every one of them holds the control characters and
whatever lies beyond ASCII. Decoding takes each percent sign with two hexadecimal digits after it for
a byte and leaves any other percent sign alone.
-/
namespace LiveFlags.Url

/-- A control character, or a character beyond ASCII. -/
def isControlOrBeyond (c : Char) : Bool := c.val < 0x20 || 0x7E < c.val

/-- What a fragment cannot hold. -/
def isFragmentEscaped (c : Char) : Bool := isControlOrBeyond c || " \"<>`".contains c

/-- What a query cannot hold. -/
def isQueryEscaped (c : Char) : Bool := isControlOrBeyond c || " \"#<>".contains c

/-- What the query of an address with a well-known scheme cannot hold. -/
def isSpecialQueryEscaped (c : Char) : Bool := isQueryEscaped c || c = '\''

/-- What a path cannot hold. -/
def isPathEscaped (c : Char) : Bool := isFragmentEscaped c || "#?\x7b\x7d".contains c

/-- What a user name or a password cannot hold. -/
def isUserinfoEscaped (c : Char) : Bool := isPathEscaped c || "/:;=@[\\]^|".contains c

/-- An upper-case hexadecimal digit. -/
def upperHexDigit (value : Nat) : Char := (Nat.digitChar (value % 16)).toUpper

/-- A byte as a percent sign and two digits. -/
def percentByte (byte : UInt8) : List Char :=
  ['%', upperHexDigit (byte.toNat / 16), upperHexDigit byte.toNat]

/-- The characters with those of the set percent-encoded. -/
def percentEncode (isEscaped : Char → Bool) (chars : List Char) : List Char :=
  chars.flatMap fun c =>
    if isEscaped c then (Text.Utf8.encode (String.singleton c)).flatMap percentByte else [c]

/-- The value of a hexadecimal digit. -/
def hexDigitValue? (c : Char) : Option Nat :=
  if '0' ≤ c ∧ c ≤ '9' then some (c.toNat - '0'.toNat)
  else if 'a' ≤ c ∧ c ≤ 'f' then some (c.toNat - 'a'.toNat + 10)
  else if 'A' ≤ c ∧ c ≤ 'F' then some (c.toNat - 'A'.toNat + 10)
  else none

/-- The byte that two hexadecimal digits write. -/
def hexByte? (high low : Char) : Option UInt8 := do
  return UInt8.ofNat ((← hexDigitValue? high) * 16 + (← hexDigitValue? low))

/-- The bytes that percent-encoded characters stand for. -/
def percentDecode : List Char → List UInt8
  | [] => []
  | '%' :: high :: low :: rest =>
    match hexByte? high low with
    | some byte => byte :: percentDecode rest
    | none => Text.Utf8.encode "%" ++ percentDecode (high :: low :: rest)
  | c :: rest => Text.Utf8.encode (String.singleton c) ++ percentDecode rest

end LiveFlags.Url
