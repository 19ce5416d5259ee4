import LiveFlags.Client.Basic

/-!
# Building a client

A builder collects settings; a client is built only from a sound configuration and a source of flags.
Failures of polls never show as errors of calls: they are recorded and the last snapshot is served on.
-/
namespace LiveFlags

/-- Why a call to a client fails. -/
inductive ClientError where
  /-- The configuration is unsound. -/
  | config (error : ConfigError)
  /-- There is no source of flags. -/
  | missingSource
  /-- There is nothing to run the poll task on. -/
  | noRuntime
  /-- Nothing was published in time. -/
  | initializationTimeout
  /-- The client is gone. -/
  | closed
  deriving DecidableEq, Repr

/-- The error in words. -/
def ClientError.message : ClientError → String
  | .config error => s!"Invalid configuration: {error.message}"
  | .missingSource => "A flag fetcher is required"
  | .noRuntime => "The poll scheduler requires a running tokio runtime"
  | .initializationTimeout => "Client initialization timed out"
  | .closed => "Client has been closed"

/-- The settings of a client to be built. -/
structure ClientBuilder where
  /-- Whether a source of flags has been given. -/
  hasSource : Bool
  /-- The configuration so far. -/
  config : Config
  deriving DecidableEq

namespace ClientBuilder

/-- Nothing has been set. -/
def initial : ClientBuilder := ⟨false, .default⟩

/-- A source of flags is given. -/
def withSource (builder : ClientBuilder) : ClientBuilder := { builder with hasSource := true }

/-- The whole configuration is set. -/
def withConfig (builder : ClientBuilder) (config : Config) : ClientBuilder :=
  { builder with config := config }

/-- The interval of polls is set. -/
def withPollInterval (builder : ClientBuilder) (interval : Duration) : ClientBuilder :=
  { builder with config.pollInterval := interval }

/-- The spread of polls is set. -/
def withJitterFraction (builder : ClientBuilder) (jitter : Float) : ClientBuilder :=
  { builder with config.jitterFraction := jitter }

/-- The time for a fetch is set. -/
def withFetchTimeout (builder : ClientBuilder) (timeout : Duration) : ClientBuilder :=
  { builder with config.fetchTimeout := timeout }

/-- Builds a client that has not been started. -/
def build (builder : ClientBuilder) (timerStep : Nat) : Except ClientError Client :=
  if !builder.hasSource then .error .missingSource
  else
    match builder.config.validate with
    | .error error => .error (.config error)
    | .ok () => .ok (.initial builder.config timerStep)

end ClientBuilder

namespace Client

/-- What a call to start returns. -/
def startResult : Reply → Except ClientError Unit
  | .done => .ok ()
  | .noRuntime => .error .noRuntime

/-- What a caller that has waited for the first snapshot is told. -/
def readyResult (published : Bool) : Except ClientError Unit :=
  if published then .ok () else .error .initializationTimeout

end Client

end LiveFlags
