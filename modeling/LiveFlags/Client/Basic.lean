import LiveFlags.Client.Jitter
import LiveFlags.Config.Basic
import LiveFlags.Store

/-!
# The state of a client

A client owns a store, the counters of its polls and at most one poll task. `start` and `stop` take a
lock in the order in which they are called; what the lock guards is kept apart from the status that
readers see without it. A `stop` holds the lock while the task drains. Callers that wait for the first
snapshot are kept with the instants at which they give up.

The state also holds its own record: the calls that have returned or panicked, the fetches that have begun
and the events of the log, each in order.
-/
namespace LiveFlags

/-- The life of a client as its readers see it. -/
inductive Status where
  /-- Not started. -/
  | idle
  /-- Started. -/
  | running
  /-- Stopped for good. -/
  | stopped
  deriving DecidableEq, Repr

/-- The word for a status. -/
def Status.name : Status → String
  | .idle => "Idle"
  | .running => "Running"
  | .stopped => "Stopped"

/-- How a poll task has ended, and whether its last poll has been left without an outcome. -/
inductive Ending where
  /-- It left its loop. -/
  | finished
  /-- It panicked. -/
  | panicked (inPoll : Bool)
  /-- It was aborted. -/
  | aborted (inPoll : Bool)
  deriving DecidableEq, Repr

/-- Where the poll task stands. -/
inductive Task where
  /-- There is none. -/
  | absent
  /-- It has been spawned and has not run. -/
  | queued
  /-- It waits for a fetch that began at an instant and is cut off at another. -/
  | fetching (started cutOff : Instant)
  /-- It sleeps until an instant. -/
  | sleeping (wake : Instant)
  /-- It has ended. -/
  | ended (how : Ending)
  deriving DecidableEq, Repr

/-- What a caller of the lifecycle asks for. -/
inductive Request where
  /-- To start polling. -/
  | start
  /-- To stop polling. -/
  | stop
  deriving DecidableEq, Repr

/-- What a call of the lifecycle returns. -/
inductive Reply where
  /-- The call has done its work. -/
  | done
  /-- There is nothing to run a task on. -/
  | noRuntime
  deriving DecidableEq, Repr

/-- A caller that waits for the first snapshot. -/
structure Waiter where
  /-- Who waits. -/
  caller : Nat
  /-- When the caller gives up. -/
  givesUp : Instant
  deriving DecidableEq, Repr

/-- A fetch that has begun. -/
structure FetchCall where
  /-- When it began. -/
  began : Instant
  /-- What the source was told. -/
  context : FetchContext
  deriving DecidableEq, Repr

/-- The state of a client. -/
structure Client where
  /-- The configuration. -/
  config : Config
  /-- The number of nanoseconds between two instants at which timers run out. -/
  timerStep : Nat
  /-- The present. -/
  now : Instant
  /-- The visible snapshot. -/
  store : Store
  /-- The counters of polls. -/
  tracker : Tracker
  /-- The sequence of the next snapshot of the poll task. -/
  nextSequence : UInt64
  /-- The status that readers see. -/
  status : Status
  /-- The status that the lock guards. -/
  guarded : Status
  /-- The poll task. -/
  task : Task
  /-- Whether the poll task has been told to stop. -/
  cancelled : Bool
  /-- The `stop` that holds the lock while the task drains. -/
  draining : Option Nat
  /-- The calls that wait for the lock, in order. -/
  queue : List (Nat × Request)
  /-- The calls that have returned, in order. -/
  answered : Array (Nat × Reply)
  /-- The calls that have panicked, in order. -/
  panickedCalls : Array Nat
  /-- The callers that wait for the first snapshot, in order. -/
  waiters : List Waiter
  /-- The callers that have waited, and whether there was a snapshot, in order. -/
  readiness : Array (Nat × Bool)
  /-- The fetches that have begun, in order. -/
  fetches : Array FetchCall
  /-- The log, in order. -/
  log : Array Event

namespace Client

/-- A client that has not been started, with timers that run out at every nanosecond that is a
multiple of `timerStep`. -/
def initial (config : Config) (timerStep : Nat) : Client where
  config := config
  timerStep := timerStep
  now := 0
  store := .initial
  tracker := .initial
  nextSequence := 0
  status := .idle
  guarded := .idle
  task := .absent
  cancelled := false
  draining := none
  queue := []
  answered := #[]
  panickedCalls := #[]
  waiters := []
  readiness := #[]
  fetches := #[]
  log := #[]

/-- The wall clock. -/
def wall (client : Client) : Timestamp := Timestamp.ofNanos client.now

/-- The first instant not before the given one at which a timer can run out. -/
def roundUp (client : Client) (instant : Instant) : Instant :=
  if client.timerStep = 0 then instant
  else (instant + client.timerStep - 1) / client.timerStep * client.timerStep

/-- When a timer that is set now for a duration runs out. -/
def timer (client : Client) (duration : Duration) : Instant :=
  client.roundUp (Instant.timer client.now duration)

/-- The client with events added to its log. -/
def logging (client : Client) (events : List Event) : Client :=
  { client with log := client.log ++ events }

/-- Whether polling goes on, as readers see it. -/
def isRunning (client : Client) : Bool := client.status = .running

/-- The statistics of the polls, with the number of visible flags. -/
def stats (client : Client) : Stats :=
  { client.tracker.stats client.now with flagCount := client.store.flagCount }

/-- The visible snapshot. -/
def snapshot (client : Client) : Snapshot := client.store.current

/-- The times between the beginnings of two fetches, in order. -/
def pollGaps (client : Client) : List Nat :=
  let began := client.fetches.toList.map FetchCall.began
  List.zipWith (fun next last => next - last) began.tail began

end Client

end LiveFlags
