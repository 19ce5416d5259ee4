import LiveFlags.Flag.Snapshot
import LiveFlags.Time.Duration

/-!
# Fetching

What a poll hands to the source of flags (`FetchContext`), how the source may fail (`FetchError`), and
why a poll then brings no new snapshot (`PollFailure`). The client knows nothing of how flags travel:
a source answers each poll with a set or an error, later or never.
-/
namespace LiveFlags

/-- What the source is told about one poll. -/
structure FetchContext where
  /-- The version of the visible snapshot. -/
  currentVersion : Option String
  /-- The number of the poll, from one. -/
  attempt : UInt64
  /-- How long the poll waits for the answer. -/
  timeout : Duration
  deriving DecidableEq, Repr

/-- How a source fails. -/
inductive FetchError where
  /-- The network failed. -/
  | transport (message : String)
  /-- The source answered with another status than success. -/
  | status (code : UInt16) (message : String)
  /-- The source refused the credentials. -/
  | unauthorized
  /-- The answer did not have the shape of a flag set. -/
  | invalidPayload (message : String)
  deriving DecidableEq, Repr

namespace FetchError

/-- The error in words. -/
def message : FetchError → String
  | .transport message => s!"transport error: {message}"
  | .status code message => s!"source returned status {code}: {message}"
  | .unauthorized => "authentication failed"
  | .invalidPayload message => s!"invalid payload: {message}"

/-- Whether a later poll may well succeed. -/
def isRetryable : FetchError → Bool
  | .transport _ => true
  | .status code _ => code = 429 || (500 ≤ code && code ≤ 599)
  | .unauthorized => false
  | .invalidPayload _ => false

end FetchError

/-- Why a poll brought no new snapshot. -/
inductive PollFailure where
  /-- The source took too long. -/
  | timeout
  /-- The flags were refused. -/
  | invalidPayload (message : String)
  /-- The source failed. -/
  | fetch (message : String)
  deriving DecidableEq, Repr

namespace PollFailure

/-- The failure of a poll whose source failed. -/
def ofFetchError : FetchError → PollFailure
  | .invalidPayload message => .invalidPayload message
  | error => .fetch error.message

/-- A fixed word for the kind of failure. -/
def reason : PollFailure → String
  | .timeout => "timeout"
  | .invalidPayload _ => "invalid_payload"
  | .fetch _ => "fetch_error"

/-- The failure in words. -/
def message : PollFailure → String
  | .timeout => "fetch timed out"
  | .invalidPayload message => s!"invalid payload: {message}"
  | .fetch message => s!"fetch failed: {message}"

end PollFailure

/-- What one poll comes to. -/
inductive PollOutcome where
  /-- A snapshot to publish. -/
  | success (snapshot : Snapshot)
  /-- No snapshot. -/
  | failure (reason : PollFailure)

/-- Whether the poll brought a snapshot. -/
def PollOutcome.isSuccess : PollOutcome → Bool
  | .success _ => true
  | .failure _ => false

end LiveFlags
