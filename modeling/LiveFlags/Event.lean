import LiveFlags.Stats

/-!
# Events

The events that loading a configuration, evaluating flags, polling and fetching leave in a log. An
event is a case of `Event` with the facts it reports; its level, its message and its named fields
follow from it.
-/
namespace LiveFlags

/-- How much an event matters. -/
inductive Level where
  /-- A step on the way. -/
  | trace
  /-- Of interest when something is looked into. -/
  | debug
  /-- Of interest to whoever runs the program. -/
  | info
  /-- Something is wrong. -/
  | warn
  deriving DecidableEq, Repr

/-- The word for a level. -/
def Level.name : Level → String
  | .trace => "TRACE"
  | .debug => "DEBUG"
  | .info => "INFO"
  | .warn => "WARN"

/-- The value of a field of an event. -/
inductive EventField where
  /-- A whole number. -/
  | natural (value : UInt64)
  /-- A double. -/
  | float (value : Float)
  /-- A text. -/
  | text (value : String)
  deriving Repr

/-- An event as it is written: its level, its message and its fields. -/
structure Line where
  /-- How much it matters. -/
  level : Level
  /-- The words. -/
  message : String
  /-- The named fields. -/
  fields : List (String × EventField)
  deriving Repr

/-- Something that happened. -/
inductive Event where
  /-- A configuration source is about to be read. -/
  | loadingSource (source : String)
  /-- A configuration file does not exist. -/
  | configFileMissing (path : String)
  /-- A configuration file has been read. -/
  | configFileParsed (path : String)
  /-- A configuration has been loaded. -/
  | configLoaded (pollIntervalMs : UInt64) (jitterFraction : Float) (fetchTimeoutMs : UInt64)
  /-- A snapshot came too late to be published. -/
  | snapshotDiscarded (sequence current : UInt64)
  /-- Polling was to start while it ran. -/
  | alreadyRunning
  /-- Polling was to start after it had been stopped. -/
  | cannotRestart
  /-- Polling has started. -/
  | started (pollIntervalMs fetchTimeoutMs : UInt64) (jitterFraction : Float)
  /-- The poll task ended by a panic. -/
  | taskPanicked
  /-- Polling has stopped. -/
  | stopped
  /-- Polling was stopped before it had started. -/
  | stoppedBeforeStart
  /-- The poll task has left its loop. -/
  | loopExited
  /-- The snapshot of a poll was not published. -/
  | notPublished (sequence : UInt64)
  /-- The first snapshot has been published. -/
  | initialized (flags : Nat) (version : Option String)
  /-- A later snapshot has been published. -/
  | published (sequence : UInt64) (flags : Nat) (version : Option String)
  /-- A poll has failed. -/
  | pollFailed (failure : PollFailure) (consecutiveFailures : UInt32)
  /-- A flag that was asked for as on or off holds something else. -/
  | notBoolean (key error : String)
  /-- A flag that was asked for as a text holds something else. -/
  | notText (key kind : String)
  /-- The server has the flags that were fetched last. -/
  | notModified
  /-- The server has sent flags. -/
  | fetched (flagCount : Nat) (version : Option String)
  deriving Repr

namespace Event

/-- How much the event matters. -/
def level : Event → Level
  | .configFileParsed _ => .trace
  | .loadingSource _ | .configFileMissing _ | .snapshotDiscarded _ _ | .alreadyRunning
  | .stoppedBeforeStart | .loopExited | .notPublished _ | .published _ _ _ | .notModified
  | .fetched _ _ => .debug
  | .configLoaded _ _ _ | .started _ _ _ | .stopped | .initialized _ _ => .info
  | .cannotRestart | .taskPanicked | .pollFailed _ _ | .notBoolean _ _ | .notText _ _ => .warn

/-- The event in words. -/
def message : Event → String
  | .loadingSource _ => "loading configuration source"
  | .configFileMissing _ => "config file not found, skipping"
  | .configFileParsed _ => "parsed config layer from TOML"
  | .configLoaded _ _ _ => "Runtime flags configuration loaded"
  | .snapshotDiscarded _ _ => "Discarding out-of-order snapshot"
  | .alreadyRunning => "Poll scheduler already running"
  | .cannotRestart => "Poll scheduler has been stopped and cannot be restarted"
  | .started _ _ _ => "Poll scheduler started"
  | .taskPanicked => "Poll task panicked"
  | .stopped => "Poll scheduler stopped"
  | .stoppedBeforeStart => "Poll scheduler stopped before it was started"
  | .loopExited => "Poll loop exited"
  | .notPublished _ => "Snapshot not published"
  | .initialized _ _ => "Runtime flags initialized"
  | .published _ _ _ => "Published flag snapshot"
  | .pollFailed _ _ => "Flag poll failed, serving previous snapshot"
  | .notBoolean _ _ => "Flag value is not a boolean, using default"
  | .notText _ _ => "Flag value is not a string, using default"
  | .notModified => "Flags not modified"
  | .fetched _ _ => "Fetched flags"

/-- A field that is left out when there is no value. -/
def optionalField (name : String) (value : Option String) : List (String × EventField) :=
  value.elim [] fun value => [(name, .text value)]

/-- A number of flags as a field. -/
def countField (name : String) (count : Nat) : String × EventField :=
  (name, .natural (UInt64.ofNat count))

/-- The named fields of the event. -/
def fields : Event → List (String × EventField)
  | .loadingSource source => [("source", .text source)]
  | .configFileMissing path => [("path", .text path)]
  | .configFileParsed path => [("path", .text path)]
  | .configLoaded interval jitter timeout =>
    [("poll_interval_ms", .natural interval), ("jitter_fraction", .float jitter),
      ("fetch_timeout_ms", .natural timeout)]
  | .snapshotDiscarded sequence current =>
    [("sequence", .natural sequence), ("current", .natural current)]
  | .started interval timeout jitter =>
    [("poll_interval_ms", .natural interval), ("fetch_timeout_ms", .natural timeout),
      ("jitter_fraction", .float jitter)]
  | .notPublished sequence => [("sequence", .natural sequence)]
  | .initialized flags version => countField "flags" flags :: optionalField "version" version
  | .published sequence flags version =>
    ("sequence", .natural sequence) :: countField "flags" flags :: optionalField "version" version
  | .pollFailed failure streak =>
    [("reason", .text failure.reason), ("error", .text failure.message),
      ("consecutive_failures", .natural streak.toUInt64)]
  | .notBoolean key error => [("flag_key", .text key), ("error", .text error)]
  | .notText key kind => [("flag_key", .text key), ("actual_type", .text kind)]
  | .fetched count version =>
    [countField "flag_count" count,
      ("version", .text (version.elim "None" fun version => "Some(" ++ Text.quote version ++ ")"))]
  | .alreadyRunning | .cannotRestart | .taskPanicked | .stopped | .stoppedBeforeStart | .loopExited
  | .notModified => []

/-- The event as it is written. -/
def line (event : Event) : Line := ⟨event.level, event.message, event.fields⟩

end Event

end LiveFlags
