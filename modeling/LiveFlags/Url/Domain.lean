import LiveFlags.Text.Pieces
import LiveFlags.Text.Utf8
import LiveFlags.Url.Domain.Label
import LiveFlags.Url.Domain.Mapping
import LiveFlags.Url.Domain.Punycode

/-!
# Domain names

The ASCII form of a domain name. A name of plain ASCII is only put in small letters. Any other name is
mapped and cut into labels; a label that is written in Punycode already is read, every label is
checked, and labels beyond ASCII are written in Punycode.
-/
namespace LiveFlags.Url.Domain

/-- The character cannot stand in a domain name. -/
def isForbidden (c : Char) : Bool :=
  c.val ≤ 0x20 || c.val = 0x7F || "%#/:<>?@[\\]^|".contains c

/-- What labels in Punycode begin with. -/
def encodedMark : List Char := ['x', 'n', '-', '-']

/-- The label is written in Punycode. -/
def isEncoded (label : List Char) : Bool := encodedMark.isPrefixOf (label.map Char.toLower)

/-- Plain ASCII in which no label is written in Punycode. -/
def isPlain (chars : List Char) : Bool :=
  chars.all (·.val < 0x80) && !(Text.pieces (· = '.') chars).any isEncoded

/-- The code points of characters. -/
def codesOf (chars : List Char) : List Nat := chars.map Char.toNat

/-- The code points of a label, which is read if it is written in Punycode. -/
def readLabel? (label : List Char) : Option (List Nat) :=
  if isEncoded label then
    (Punycode.decode? (label.drop encodedMark.length)).filter fun codes =>
      codes.any (0x80 ≤ ·) && isMapped codes
  else some (codesOf label)

/-- A label may stand in a domain name, whatever labels are beside it. -/
def isSound (codes : List Nat) : Bool := !beginsWithMark codes && joinersFit codes

/-- A label in ASCII. -/
def writeLabel (codes : List Nat) : List Char :=
  if codes.all (· < 0x80) then codes.map Char.ofNat else encodedMark ++ Punycode.encode codes

/-- The labels of a domain name, mapped and checked. -/
def labels? (chars : List Char) : Option (List (List Nat)) := do
  let name := (← mapCodes? (codesOf chars)).map Char.ofNat
  let labels ← (Text.pieces (· = '.') name).mapM readLabel?
  let fits := !labels.any hasRightToLeft || labels.all directionFits
  if fits && labels.all isSound then some labels else none

/-- The ASCII form of a domain name, given as bytes; none if it has none. -/
def toAscii? (bytes : List UInt8) : Option (List Char) := do
  let chars := (← Text.Utf8.text? bytes).toList
  let name ←
    if isPlain chars then some (chars.map Char.toLower)
    else (labels? chars).map fun labels => ['.'].intercalate (labels.map writeLabel)
  if name.any isForbidden then none else some name

end LiveFlags.Url.Domain
