import LiveFlags.Url.Address
import LiveFlags.Url.Domain

/-!
# Hosts

The host of an address is a name or a numeric address. Under a well-known scheme a name is
percent-decoded, brought into its ASCII form and read as a version 4 address if its last part is a
number; under any other scheme it is kept as it is written. A version 6 address stands in brackets
under every scheme.
-/
namespace LiveFlags.Url

/-- Why a text is no address. -/
inductive Fault where
  /-- The text names no scheme and there is nothing that it could be relative to. -/
  | relativeWithoutBase
  /-- The text names no scheme and what it would be relative to has no hierarchy. -/
  | relativeToFlat
  /-- The scheme demands a host. -/
  | emptyHost
  /-- The port is no number or too great. -/
  | invalidPort
  /-- The host ends in a number but is no version 4 address. -/
  | invalidIpv4
  /-- The brackets hold no version 6 address. -/
  | invalidIpv6
  /-- The host name has no ASCII form. -/
  | invalidName
  /-- The host name holds a character that separates the parts of an address. -/
  | invalidCharacter
  deriving DecidableEq, Repr

/-- The fault in words. -/
def Fault.message : Fault → String
  | .relativeWithoutBase => "relative URL without a base"
  | .relativeToFlat => "relative URL with a cannot-be-a-base base"
  | .emptyHost => "empty host"
  | .invalidPort => "invalid port number"
  | .invalidIpv4 => "invalid IPv4 address"
  | .invalidIpv6 => "invalid IPv6 address"
  | .invalidName => "invalid international domain name"
  | .invalidCharacter => "invalid domain character"

/-- The host of an address. -/
inductive Host where
  /-- A name; the empty one stands for no host. -/
  | name (text : String)
  /-- A version 4 address. -/
  | ipv4 (address : UInt32)
  /-- A version 6 address, as its eight groups. -/
  | ipv6 (groups : List UInt16)
  deriving DecidableEq, Repr

namespace Host

/-- No host. -/
def none : Host := .name ""

/-- The host as it stands in an address. -/
def print : Host → String
  | .name text => text
  | .ipv4 address => printIpv4 address
  | .ipv6 groups => "[" ++ printIpv6 groups ++ "]"

/-- Reads what stands in brackets, the first of which has been read. -/
def readBracketed (chars : List Char) : Except Fault Host :=
  if chars.getLast? = some ']' then
    match readIpv6? chars.dropLast with
    | some groups => .ok (.ipv6 groups)
    | Option.none => .error .invalidIpv6
  else .error .invalidIpv6

/-- Reads the host of an address with a well-known scheme. -/
def readSpecial (chars : List Char) : Except Fault Host :=
  match chars with
  | '[' :: rest => readBracketed rest
  | chars =>
    match Domain.toAscii? (percentDecode chars) with
    | Option.none => .error .invalidName
    | some [] => .error .emptyHost
    | some domain =>
      if endsInNumber domain then
        match readIpv4? domain with
        | some address => .ok (.ipv4 address)
        | Option.none => .error .invalidIpv4
      else .ok (.name (String.ofList domain))

/-- The character separates the parts of an address, or is a blank or NUL. -/
def isForbidden (c : Char) : Bool := "\x00\t\n\r #/:<>?@[\\]^|".contains c

/-- Reads the host of an address with any other scheme. -/
def readPlain (chars : List Char) : Except Fault Host :=
  match chars with
  | '[' :: rest => readBracketed rest
  | chars =>
    if chars.any isForbidden then .error .invalidCharacter
    else .ok (.name (String.ofList (percentEncode isControlOrBeyond chars)))

end Host

end LiveFlags.Url
