import LiveFlags.Text.Pieces

/-!
# Tables of code points

A table says something of some code points, stretch by stretch. It is written as a text of stretches
in increasing order with blanks or line ends between them. A stretch is one code point or the first
and the last of several, in hexadecimal, with `/2` after them if it is only every second one; after
an equals sign stand the values that hold for all of them, joined by plus signs, and after a greater
sign the value of the first, which grows with the code point.
-/
namespace LiveFlags.Text

/-- A stretch of code points and what is said of them. -/
structure Stretch where
  /-- The first code point. -/
  first : Nat
  /-- The last code point. -/
  last : Nat
  /-- The distance from one code point to the next. -/
  stride : Nat
  /-- Whether the values grow with the code point. -/
  grows : Bool
  /-- The values. -/
  values : List Nat
  deriving DecidableEq, Repr, Inhabited

namespace Stretch

/-- The stretch holds a code point. -/
def contains (stretch : Stretch) (code : Nat) : Bool :=
  stretch.first ≤ code && code ≤ stretch.last && (code - stretch.first) % stretch.stride = 0

/-- The values of a code point of the stretch. -/
def valuesAt (stretch : Stretch) (code : Nat) : List Nat :=
  if stretch.grows then stretch.values.map (· + (code - stretch.first)) else stretch.values

/-- The value of a hexadecimal digit; zero for any other character. -/
def hexDigit (c : Char) : Nat :=
  if c.isDigit then c.toNat - '0'.toNat else c.toNat - 'A'.toNat + 10

/-- A number in hexadecimal. -/
def readCode (chars : List Char) : Nat :=
  chars.foldl (fun value c => value * 16 + hexDigit c) 0

/-- The code points of a stretch, without anything said of them. -/
def readCodes (chars : List Char) : Stretch :=
  let every := chars.contains '/'
  match (pieces (· = '-') (chars.takeWhile (· ≠ '/'))).map readCode with
  | [first, last] => ⟨first, last, if every then 2 else 1, false, []⟩
  | codes => ⟨codes.headD 0, codes.headD 0, 1, false, []⟩

/-- Reads a stretch. -/
def ofChars (chars : List Char) : Stretch :=
  let isMark (c : Char) : Bool := c = '=' || c = '>'
  match pieces isMark chars with
  | [codes, values] =>
    { readCodes codes with
      grows := chars.contains '>'
      values := (pieces (· = '+') values).map readCode }
  | _ => readCodes chars

end Stretch

/-- Stretches in increasing order. -/
abbrev CodeTable := Array Stretch

namespace CodeTable

/-- Reads a table. -/
def ofText (text : String) : CodeTable :=
  ((text.splitOn "\n").flatMap (·.splitOn " ")).toArray.filterMap fun item =>
    if item.isEmpty then none else some (Stretch.ofChars item.toList)

/-- The number of stretches that begin at or before a code point, if those before `low` do and those
from `low + span` on do not. -/
def countFrom (table : CodeTable) (code : Nat) (low span : Nat) : Nat :=
  if span = 0 then low
  else
    let half := span / 2
    if (table.getD (low + half) default).first ≤ code then
      countFrom table code (low + half + 1) (span - half - 1)
    else countFrom table code low half
termination_by span
decreasing_by all_goals omega

/-- The stretch that holds a code point. -/
def stretch? (table : CodeTable) (code : Nat) : Option Stretch :=
  (table[countFrom table code 0 table.size - 1]?).filter (·.contains code)

/-- The table says something of a code point. -/
def contains (table : CodeTable) (code : Nat) : Bool := (table.stretch? code).isSome

/-- What the table says of a code point. -/
def values? (table : CodeTable) (code : Nat) : Option (List Nat) :=
  (table.stretch? code).map (·.valuesAt code)

end CodeTable

end LiveFlags.Text
