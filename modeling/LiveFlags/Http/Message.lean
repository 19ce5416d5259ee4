import LiveFlags.Http.Error
import LiveFlags.Text.Utf8
import LiveFlags.Url.Basic

/-!
# Requests and answers

The messages that a fetcher exchanges with a server. A header value may hold any byte but the control
characters other than the tab; a request with another value is never sent. An exchange ends with an
answer or with a fault of the transport.
-/
namespace LiveFlags.Http

/-- The bytes of a header value. -/
abbrev HeaderValue := List UInt8

/-- The byte may stand in a header value. -/
def isHeaderByte (byte : UInt8) : Bool := byte = 0x09 || (0x20 ≤ byte && byte ≠ 0x7F)

/-- The header value may be sent. -/
def isLegalHeader (value : HeaderValue) : Bool := value.all isHeaderByte

/-- The byte is a tab, a blank or a printable character of ASCII. -/
def isTextByte (byte : UInt8) : Bool := byte = 0x09 || (0x20 ≤ byte && byte < 0x7F)

/-- The text of a header value, if all of it is text. -/
def headerText? (value : HeaderValue) : Option String :=
  if value.all isTextByte then Text.Utf8.text? value else none

/-- A request for the flags. -/
structure Request where
  /-- Where it goes. -/
  url : Url
  /-- The value of the header `Authorization`. -/
  authorization : HeaderValue
  /-- The value of the header `If-None-Match`, if there is one. -/
  ifNoneMatch : Option HeaderValue
  /-- The value of the header `User-Agent`. -/
  userAgent : HeaderValue
  /-- How long the exchange may take, in place of the time that the fetcher allows by itself. -/
  timeout : Option Duration
  deriving DecidableEq, Repr

namespace Request

/-- The method of every request. -/
def method : String := "GET"

/-- The request can be sent: its address is one of HTTP and its header values are legal. -/
def isSendable (request : Request) : Bool :=
  (request.url.scheme = "http" || request.url.scheme = "https")
    && isLegalHeader request.authorization && request.ifNoneMatch.all isLegalHeader

end Request

/-- The body of an answer, as far as it has come. -/
inductive Body where
  /-- All of it has come. -/
  | whole (bytes : List UInt8)
  /-- The connection ended before all of it had come. -/
  | cut (fault : TransportFault)
  deriving DecidableEq, Repr

/-- The answer of a server. -/
structure Answer where
  /-- The status. -/
  status : UInt16
  /-- The headers in their order. -/
  headers : List (String × HeaderValue)
  /-- The body. -/
  body : Body
  deriving DecidableEq, Repr

namespace Answer

/-- The byte is a blank at the end of a header value. -/
def isHeaderBlank (byte : UInt8) : Bool := byte = 0x20 || byte = 0x09

/-- The value of the first header with a name, in any case of its letters, without the blanks at either
end. -/
def header? (answer : Answer) (name : String) : Option HeaderValue :=
  (answer.headers.find? fun header => header.1.toLower = name.toLower).map fun header =>
    ((header.2.dropWhile isHeaderBlank).reverse.dropWhile isHeaderBlank).reverse

/-- The entity tag of the answer, if it has one that is text. -/
def entityTag? (answer : Answer) : Option String := (answer.header? "ETag").bind headerText?

/-- The status means success. -/
def isSuccess (answer : Answer) : Bool := 200 ≤ answer.status && answer.status ≤ 299

/-- The body as text, with replacement characters; empty if it did not all come. -/
def lossyText (answer : Answer) : String :=
  match answer.body with
  | .whole bytes => Text.Utf8.decodeLossy bytes
  | .cut _ => ""

end Answer

/-- How an exchange ends: with the head of an answer, or without one. -/
abbrev Outcome := Except TransportFault Answer

/-- What a server does with a request that reaches it. -/
inductive Reaction where
  /-- It answers. -/
  | answers (answer : Answer)
  /-- It closes the connection. -/
  | closes
  /-- It never answers. -/
  | hangs
  deriving DecidableEq, Repr

/-- Whether requests find their way. -/
inductive Route where
  /-- They reach the server. -/
  | passable
  /-- They reach nobody. -/
  | blocked
  deriving DecidableEq, Repr

namespace Route

/-- What the server receives of a request. -/
def delivers (route : Route) (request : Request) : Option Request :=
  if route = .passable ∧ request.isSendable then some request else none

/-- How the exchange of a request ends, given what the server would do and the words of the transport. -/
def exchange (route : Route) (words : TransportWords) (request : Request) (reaction : Reaction) : Outcome :=
  if !request.isSendable then .error (words.fault .unsendable)
  else
    match route, reaction with
    | .blocked, _ => .error (words.fault .unreachable)
    | .passable, .answers answer => .ok answer
    | .passable, .closes => .error (words.fault .broken)
    | .passable, .hangs => .error (words.fault .timedOut)

end Route

end LiveFlags.Http
