import LiveFlags.Text.Pieces
import LiveFlags.Url.Percent

/-!
# Numeric host addresses

A version 4 address is written as one to four numbers with points between them, in decimal, octal
after a zero or hexadecimal after `0x`; the last number fills all the bytes that the others leave. A
version 6 address is written as eight groups of at most four hexadecimal digits with colons between
them, the last two of which may be four decimal numbers with points; two colons in a row stand for as
many groups of zeros as are lacking, one at least. Printing gives one form to each address: four
decimal numbers, and lower-case groups in which the first longest run of two or more zeros is left out.
-/
namespace LiveFlags.Url

/-- The number that digits write in a base; none if one of them is no digit of the base. -/
def digitsIn? (base : Nat) (digits : List Char) : Option Nat :=
  digits.foldlM (fun value c => do
    let digit ← hexDigitValue? c
    if digit < base then some (value * base + digit) else none) 0

/-! ## Version 4 -/

/-- One number of a version 4 address. -/
def ipv4Number? (chars : List Char) : Option Nat :=
  match chars with
  | [] => none
  | ['0'] => some 0
  | '0' :: 'x' :: digits | '0' :: 'X' :: digits => digitsIn? 16 digits
  | '0' :: digits => digitsIn? 8 digits
  | digits => digitsIn? 10 digits

/-- The pieces between the points, without an empty one at the end. -/
def dottedParts (chars : List Char) : List (List Char) :=
  let parts := Text.pieces (· = '.') chars
  if parts.getLast? = some [] then parts.dropLast else parts

/-- The last piece between the points is a number, so the text is an address or nothing. -/
def endsInNumber (chars : List Char) : Bool :=
  match (dottedParts chars).getLast? with
  | none => false
  | some last =>
    (!last.isEmpty && last.all fun c => '0' ≤ c && c ≤ '9') || (ipv4Number? last).isSome

/-- The number of a version 4 address from those of its parts: every part but the last is one byte, and
the last one fills what is left. -/
def joinIpv4? (numbers : List Nat) : Option UInt32 :=
  match numbers.reverse with
  | [] => none
  | last :: leading =>
    if 4 < numbers.length || leading.any (255 < ·) || Nat.pow 256 (4 - leading.length) ≤ last then none
    else
      let high := leading.reverse.foldl (fun value byte => value * 256 + byte) 0
      some (UInt32.ofNat (high * Nat.pow 256 (4 - leading.length) + last))

/-- Reads a version 4 address. -/
def readIpv4? (chars : List Char) : Option UInt32 := do
  joinIpv4? (← (dottedParts chars).mapM ipv4Number?)

/-- The four bytes of a version 4 address in decimal. -/
def printIpv4 (address : UInt32) : String :=
  let byte (power : Nat) : String := toString (address.toNat / Nat.pow 256 power % 256)
  byte 3 ++ "." ++ byte 2 ++ "." ++ byte 1 ++ "." ++ byte 0

/-! ## Version 6 -/

/-- A group of at most four hexadecimal digits. -/
def ipv6Group? (chars : List Char) : Option UInt16 :=
  if chars.isEmpty || 4 < chars.length then none else (digitsIn? 16 chars).map UInt16.ofNat

/-- A decimal number of one byte without zeros in front. -/
def decimalByte? (chars : List Char) : Option Nat :=
  match chars with
  | [] => none
  | ['0'] => some 0
  | '0' :: _ => none
  | digits => (digitsIn? 10 digits).filter (· ≤ 255)

/-- Four decimal numbers as two groups. -/
def dottedGroups? (chars : List Char) : Option (List UInt16) := do
  match ← (Text.pieces (· = '.') chars).mapM decimalByte? with
  | [a, b, c, d] => some [UInt16.ofNat (a * 256 + b), UInt16.ofNat (c * 256 + d)]
  | _ => none

/-- The groups between the colons, the last of which may be four decimal numbers if `dotted` holds. -/
def ipv6Groups? (dotted : Bool) : List (List Char) → Option (List UInt16)
  | [] => some []
  | [last] =>
    if dotted && last.contains '.' then dottedGroups? last else (ipv6Group? last).map ([·])
  | first :: rest => do
    let group ← ipv6Group? first
    return group :: (← ipv6Groups? dotted rest)

/-- The groups of a text between colons; none of an empty text. -/
def ipv6Run? (dotted : Bool) (chars : List Char) : Option (List UInt16) :=
  if chars.isEmpty then some [] else ipv6Groups? dotted (Text.pieces (· = ':') chars)

/-- The texts before and after the first two colons in a row. -/
def splitAtGap? : List Char → Option (List Char × List Char)
  | ':' :: ':' :: rest => some ([], rest)
  | c :: rest => (splitAtGap? rest).map fun (before, after) => (c :: before, after)
  | [] => none

/-- Reads a version 6 address as its eight groups. -/
def readIpv6? (chars : List Char) : Option (List UInt16) :=
  match splitAtGap? chars with
  | none => do
    let groups ← ipv6Run? true chars
    if groups.length = 8 then some groups else none
  | some (before, after) => do
    let leading ← ipv6Run? false before
    let trailing ← ipv6Run? true after
    if leading.length + trailing.length < 8 then
      some (leading ++ List.replicate (8 - leading.length - trailing.length) 0 ++ trailing)
    else none

/-- How many zeros the groups begin with. -/
def zeroRun (groups : List UInt16) : Nat := (groups.takeWhile (· = 0)).length

/-- Where the first longest run of zeros begins and how long it is. -/
def longestZeroRun (groups : List UInt16) : Nat × Nat :=
  (List.range groups.length).foldl
    (fun best start =>
      let run := zeroRun (groups.drop start)
      if best.2 < run then (start, run) else best) (0, 0)

/-- A group in lower-case hexadecimal. -/
def printGroup (group : UInt16) : String := String.ofList (Nat.toDigits 16 group.toNat)

/-- The groups with colons between them. -/
def printGroups (groups : List UInt16) : String := ":".intercalate (groups.map printGroup)

/-- The groups of a version 6 address, the first longest run of two zeros or more left out. -/
def printIpv6 (groups : List UInt16) : String :=
  let (start, run) := longestZeroRun groups
  if run < 2 then printGroups groups
  else printGroups (groups.take start) ++ "::" ++ printGroups (groups.drop (start + run))

end LiveFlags.Url
