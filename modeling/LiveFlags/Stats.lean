import LiveFlags.Fetch

/-!
# Poll statistics

A `Tracker` counts polls as they begin, succeed and fail; `Tracker.stats` is what it says about them
at an instant. Each record call changes all of its fields at once. The health of a client follows from
its present streak of failures alone.
-/
namespace LiveFlags

/-- How well polling goes. -/
inductive Health where
  /-- The last poll did not fail. -/
  | healthy
  /-- One or two polls in a row failed. -/
  | degraded
  /-- Three polls in a row failed, or more. -/
  | unhealthy
  deriving DecidableEq, Repr

/-- The streak of failures from which on a client counts as unhealthy. -/
def unhealthyThreshold : UInt32 := 3

/-- The health after so many failures in a row. -/
def Health.ofStreak (failures : UInt32) : Health :=
  if unhealthyThreshold ≤ failures then .unhealthy
  else if 1 ≤ failures then .degraded
  else .healthy

/-- The word for a state of health. -/
def Health.name : Health → String
  | .healthy => "healthy"
  | .degraded => "degraded"
  | .unhealthy => "unhealthy"

/-- What is known about the polls of a client at an instant. -/
structure Stats where
  /-- The polls begun. -/
  pollCount : UInt64
  /-- The polls that failed. -/
  pollErrorCount : UInt64
  /-- When the last poll began. -/
  lastPollAt : Option Timestamp
  /-- When the last successful poll ended. -/
  lastSuccessfulPollAt : Option Timestamp
  /-- The time since then. -/
  cacheAge : Option Duration
  /-- The number of flags. -/
  flagCount : Nat
  /-- The failures since the last success. -/
  consecutiveFailures : UInt32
  /-- The word for the last failure since the last success. -/
  lastError : Option String
  deriving DecidableEq, Repr

namespace Stats

/-- Nothing has happened. -/
def initial : Stats := ⟨0, 0, none, none, none, 0, 0, none⟩

instance : Inhabited Stats := ⟨initial⟩

/-- The health that the present streak of failures means. -/
def health (stats : Stats) : Health := Health.ofStreak stats.consecutiveFailures

/-- Whether a poll has succeeded. -/
def hasSucceeded (stats : Stats) : Bool := stats.lastSuccessfulPollAt.isSome

/-- The statistics as plain JSON, the age of the cache in whole milliseconds. -/
def toJson (stats : Stats) : Json.Value :=
  let time (at? : Option Timestamp) : Json.Value := at?.elim .null fun time => .string time.render
  .object [
    ("poll_count", .natural stats.pollCount),
    ("poll_error_count", .natural stats.pollErrorCount),
    ("last_poll_at", time stats.lastPollAt),
    ("last_successful_poll_at", time stats.lastSuccessfulPollAt),
    ("cache_age_ms", stats.cacheAge.elim .null fun age => .natural age.millisWord),
    ("flag_count", .natural (UInt64.ofNat stats.flagCount)),
    ("consecutive_failures", .natural stats.consecutiveFailures.toUInt64),
    ("last_error", stats.lastError.elim .null .string)]

end Stats

/-- The counters of one client. -/
structure Tracker where
  /-- The polls begun. -/
  pollCount : UInt64
  /-- The polls that failed. -/
  pollErrorCount : UInt64
  /-- When the last poll began. -/
  lastPollAt : Option Timestamp
  /-- When the last successful poll ended. -/
  lastSuccessfulPollAt : Option Timestamp
  /-- The same on the monotonic clock. -/
  lastSuccess : Option Instant
  /-- The number of flags that the last success published. -/
  flagCount : Nat
  /-- The failures since the last success. -/
  consecutiveFailures : UInt32
  /-- The word for the last failure since the last success. -/
  lastError : Option String
  deriving DecidableEq, Repr

namespace Tracker

/-- Nothing has been recorded. -/
def initial : Tracker := ⟨0, 0, none, none, none, 0, 0, none⟩

instance : Inhabited Tracker := ⟨initial⟩

/-- A poll begins; its number is the count of polls after it. -/
def recordAttempt (tracker : Tracker) (wall : Timestamp) : Tracker :=
  { tracker with pollCount := tracker.pollCount + 1, lastPollAt := some wall }

/-- A snapshot with so many flags has been published. -/
def recordSuccess (tracker : Tracker) (flagCount : Nat) (wall : Timestamp) (now : Instant) : Tracker :=
  { tracker with
    lastSuccessfulPollAt := some wall
    lastSuccess := some now
    flagCount := flagCount
    consecutiveFailures := 0
    lastError := none }

/-- A poll has failed. The streak of failures stays at its greatest value once it is reached. -/
def recordFailure (tracker : Tracker) (failure : PollFailure) : Tracker :=
  { tracker with
    pollErrorCount := tracker.pollErrorCount + 1
    consecutiveFailures :=
      if tracker.consecutiveFailures.toNat + 1 < 4294967296 then tracker.consecutiveFailures + 1
      else tracker.consecutiveFailures
    lastError := some failure.reason }

/-- What the counters say at an instant. -/
def stats (tracker : Tracker) (now : Instant) : Stats where
  pollCount := tracker.pollCount
  pollErrorCount := tracker.pollErrorCount
  lastPollAt := tracker.lastPollAt
  lastSuccessfulPollAt := tracker.lastSuccessfulPollAt
  cacheAge := tracker.lastSuccess.map fun success => Instant.elapsed success now
  flagCount := tracker.flagCount
  consecutiveFailures := tracker.consecutiveFailures
  lastError := tracker.lastError

end Tracker

end LiveFlags
