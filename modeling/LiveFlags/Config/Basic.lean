import LiveFlags.Decimal.Layout
import LiveFlags.Time.Duration

/-!
# Client configuration

How often a client polls, how far the times of its polls spread, and how long one fetch may take. A
configuration is sound (`Config.validate`) if both times are positive, the fetch ends before the next
poll is due, and the spread is a fraction from zero to one.
-/
namespace LiveFlags

/-- The configuration of a client. -/
structure Config where
  /-- The time between the starts of two polls. -/
  pollInterval : Duration
  /-- The fraction of the interval by which each wait is lengthened or shortened at most. -/
  jitterFraction : Float
  /-- How long one fetch may take. -/
  fetchTimeout : Duration
  deriving DecidableEq

namespace Config

/-- The interval of polls unless another is set, in milliseconds. -/
def defaultPollIntervalMs : UInt64 := 30000

/-- The time for a fetch unless another is set, in milliseconds. -/
def defaultFetchTimeoutMs : UInt64 := 10000

/-- The spread of polls unless another is set. -/
def defaultJitterFraction : Float := 0.0

/-- The configuration in which nothing has been set. -/
def default : Config :=
  ⟨.ofMillis defaultPollIntervalMs, defaultJitterFraction, .ofMillis defaultFetchTimeoutMs⟩

instance : Inhabited Config := ⟨default⟩

end Config

/-- Why a configuration is unsound. -/
inductive UnsoundConfig where
  /-- The interval of polls is zero. -/
  | zeroInterval
  /-- The time for a fetch is zero. -/
  | zeroTimeout
  /-- A fetch may take as long as the interval of polls, or longer. -/
  | timeoutTooLong (fetchTimeout pollInterval : Duration)
  /-- The spread is no fraction from zero to one. -/
  | jitterOutOfRange (jitterFraction : Float)
  deriving DecidableEq, Repr

/-- The fault in words. -/
def UnsoundConfig.message : UnsoundConfig → String
  | .zeroInterval => "poll interval must be positive"
  | .zeroTimeout => "fetch timeout must be positive"
  | .timeoutTooLong fetchTimeout pollInterval =>
    s!"fetch timeout ({fetchTimeout.millis}ms) must be less than poll interval ({pollInterval.millis}ms)"
  | .jitterOutOfRange jitterFraction =>
    "jitter fraction must be between 0 and 1, got " ++ Layout.positional.render jitterFraction

/-- Why no configuration could be had. -/
inductive ConfigError where
  /-- The configuration file could not be read as text. -/
  | fileRead (path : String)
  /-- The configuration file is not a table of settings. -/
  | fileParse (path : String)
  /-- A setting could not be understood. -/
  | invalidValue (key message : String)
  /-- The settings do not go together. -/
  | unsound (fault : UnsoundConfig)
  deriving DecidableEq, Repr

/-- The error in words. -/
def ConfigError.message : ConfigError → String
  | .fileRead path => s!"failed to read config file {path}"
  | .fileParse path => s!"failed to parse config file {path}"
  | .invalidValue key message => s!"invalid value for {key}: {message}"
  | .unsound fault => fault.message

namespace Config

/-- The spread is a fraction from zero to one. -/
def jitterInRange (jitterFraction : Float) : Bool :=
  jitterFraction.isFinite && (0.0 ≤ jitterFraction && jitterFraction ≤ 1.0)

/-- Checks the interval, the time for a fetch, the two together and the spread, in this order. -/
def validate (config : Config) : Except ConfigError Unit :=
  if config.pollInterval.isZero then .error (.unsound .zeroInterval)
  else if config.fetchTimeout.isZero then .error (.unsound .zeroTimeout)
  else if config.pollInterval ≤ config.fetchTimeout then
    .error (.unsound (.timeoutTooLong config.fetchTimeout config.pollInterval))
  else if !jitterInRange config.jitterFraction then
    .error (.unsound (.jitterOutOfRange config.jitterFraction))
  else .ok ()

/-- The checked configuration. -/
def validated (config : Config) : Except ConfigError Config :=
  config.validate.map fun _ => config

end Config

end LiveFlags
