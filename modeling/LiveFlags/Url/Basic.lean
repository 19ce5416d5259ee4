import LiveFlags.Url.Host

/-!
# Addresses

An address has a scheme, may have an authority, and has a path, which is a hierarchy of segments or,
under a scheme without hierarchy, a flat text; a query and a fragment may follow. All texts are kept
in their encoded form, so printing only puts the parts together (`Url.print`). Two slashes at the
front of a path would read as an authority, so a path without authority that begins with an empty
segment is printed after `/.`.
-/
namespace LiveFlags

namespace Url

/-- The scheme is one of those whose addresses always have a host and a hierarchy. -/
def isSpecial (scheme : String) : Bool :=
  ["http", "https", "ws", "wss", "ftp", "file"].contains scheme

/-- The port that a scheme uses unless another is named. -/
def defaultPort? (scheme : String) : Option UInt16 :=
  if scheme = "http" ∨ scheme = "ws" then some 80
  else if scheme = "https" ∨ scheme = "wss" then some 443
  else if scheme = "ftp" then some 21
  else none

/-- Who answers at an address. -/
structure Authority where
  /-- A user name. -/
  user : String
  /-- A password. -/
  password : String
  /-- The host. -/
  host : Host
  /-- The port, unless it is that of the scheme. -/
  port : Option UInt16
  deriving DecidableEq, Repr

namespace Authority

/-- A host by itself. -/
def ofHost (host : Host) : Authority := ⟨"", "", host, none⟩

/-- The user name and the password as they stand in front of the host. -/
def printUserinfo (authority : Authority) : String :=
  if authority.user.isEmpty && authority.password.isEmpty then ""
  else if authority.password.isEmpty then authority.user ++ "@"
  else authority.user ++ ":" ++ authority.password ++ "@"

/-- The authority as it stands after two slashes. -/
def print (authority : Authority) : String :=
  authority.printUserinfo ++ authority.host.print
    ++ authority.port.elim "" fun port => ":" ++ toString port.toNat

end Authority

/-- What an address points to. -/
inductive Path where
  /-- A text without hierarchy. -/
  | flat (text : String)
  /-- A hierarchy of segments, each of which a slash precedes. -/
  | segments (names : List String)
  deriving DecidableEq, Repr

/-- The path as text. -/
def Path.print : Path → String
  | .flat text => text
  | .segments names => String.join (names.map ("/" ++ ·))

end Url

/-- An address. -/
structure Url where
  /-- The scheme, in lower case. -/
  scheme : String
  /-- The authority, if the address has one. -/
  authority : Option Url.Authority
  /-- The path. -/
  path : Url.Path
  /-- What follows a question mark. -/
  query : Option String
  /-- What follows a number sign. -/
  fragment : Option String
  deriving DecidableEq, Repr

namespace Url

/-- The address has no hierarchy. -/
def isFlat (url : Url) : Bool :=
  match url.path with
  | .flat _ => true
  | .segments _ => false

/-- The segments of the path; none if it is flat. -/
def segments (url : Url) : List String :=
  match url.path with
  | .flat _ => []
  | .segments names => names

/-- What stands between the scheme and the path. -/
def printAuthority (url : Url) : String :=
  match url.authority, url.path with
  | some authority, _ => "//" ++ authority.print
  | none, .segments ("" :: _ :: _) => "/."
  | none, _ => ""

/-- The address without its fragment. -/
def printWithoutFragment (url : Url) : String :=
  url.scheme ++ ":" ++ url.printAuthority ++ url.path.print ++ url.query.elim "" ("?" ++ ·)

/-- The address as text. -/
def print (url : Url) : String :=
  url.printWithoutFragment ++ url.fragment.elim "" ("#" ++ ·)

/-- The host of the address, if there is one. -/
def host? (url : Url) : Option Host :=
  (url.authority.map Authority.host).filter (· ≠ .none)

end Url

end LiveFlags
