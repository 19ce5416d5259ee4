import LiveFlags.Fetch

/-!
# Errors of fetching over HTTP

What can go wrong when a fetcher is built or used, and which failure of a source each error counts as:
whatever is not an answer of the server is a failure of the network.
-/
namespace LiveFlags

/-- What keeps a request from a complete answer. -/
inductive TransportCause where
  /-- The request cannot be sent at all. -/
  | unsendable
  /-- There is no way to the server. -/
  | unreachable
  /-- The connection ended before the answer was complete. -/
  | broken
  /-- The time for the request is over. -/
  | timedOut
  deriving DecidableEq, Repr

/-- Why a request has no complete answer, in the words of the transport. -/
structure TransportFault where
  /-- The words. -/
  text : String
  deriving DecidableEq, Repr

/-- The words that a transport has for everything that can keep a request from a complete answer. -/
abbrev TransportWords := TransportCause → String

/-- The fault of this cause. -/
def TransportWords.fault (words : TransportWords) (cause : TransportCause) : TransportFault := ⟨words cause⟩

/-- What goes wrong when flags are fetched over HTTP. -/
inductive HttpError where
  /-- The address of the flags is none. -/
  | invalidUrl (message : String)
  /-- There is no key to identify with. -/
  | missingApiKey
  /-- There is no complete answer. -/
  | request (fault : TransportFault)
  /-- The server refuses the key. -/
  | unauthorized (code : UInt16)
  /-- The server answers with another status than success. -/
  | status (code : UInt16) (message : String)
  /-- The answer is no document of flags. -/
  | decode (message : String)
  /-- The server says that nothing has changed, but nothing has been fetched. -/
  | notModifiedWithoutCache
  deriving DecidableEq, Repr

namespace HttpError

/-- The error in words. -/
def message : HttpError → String
  | .invalidUrl message => s!"invalid base URL: {message}"
  | .missingApiKey => "API key must not be empty"
  | .request fault => s!"request failed: {fault.text}"
  | .unauthorized code => s!"unauthorized (HTTP {code.toNat})"
  | .status code message => s!"server returned HTTP {code.toNat}: {message}"
  | .decode message => s!"malformed flags document: {message}"
  | .notModifiedWithoutCache => "server returned 304 but no flag set has been fetched yet"

/-- The failure of a source that the error counts as. -/
def toFetchError : HttpError → FetchError
  | .unauthorized _ => .unauthorized
  | .status code message => .status code message
  | .decode message => .invalidPayload message
  | .notModifiedWithoutCache => .invalidPayload "304 Not Modified without a cached flag set"
  | error => .transport error.message

end HttpError

end LiveFlags
