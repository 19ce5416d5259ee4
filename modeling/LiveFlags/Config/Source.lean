import LiveFlags.Config.Layer
import LiveFlags.Event

/-!
# Configuration sources

A source has a name, a precedence and a layer, or an error in place of the layer. Sources are read in
the order of their precedence, sources of one precedence in the order given, and the first error ends
the reading. The layers are overlaid in that order and the result is checked.
-/
namespace LiveFlags

/-- Which of two sources wins: the one with the higher level. -/
inductive Precedence where
  /-- Built-in settings. -/
  | defaults
  /-- A configuration file. -/
  | file
  /-- The environment of the process. -/
  | environment
  deriving DecidableEq, Repr

/-- The level of a precedence. -/
def Precedence.level : Precedence → Nat
  | .defaults => 10
  | .file => 20
  | .environment => 50

/-- A place that settings come from, and what reading it yields. -/
structure Source where
  /-- The name of the source. -/
  name : String
  /-- Which sources it wins over. -/
  precedence : Precedence
  /-- The layer, or why there is none. -/
  layer : Except ConfigError Layer
  /-- The events that reading the source leaves. -/
  events : List Event

namespace Source

/-- The built-in settings: a layer that sets nothing. -/
def defaults : Source := ⟨"defaults", .defaults, .ok .empty, []⟩

/-- The sources in the order in which they are read, each with its place in the list given. -/
def inOrder (sources : List Source) : List (Source × Nat) :=
  sources.zipIdx.mergeSort fun left right => left.1.precedence.level ≤ right.1.precedence.level

/-- The sources up to the first that yields an error, that one included. -/
def untilError : List (Source × Nat) → List (Source × Nat)
  | [] => []
  | source :: rest =>
    match source.1.layer with
    | .ok _ => source :: untilError rest
    | .error _ => [source]

/-- The places of the sources that are read, in the order of reading. -/
def placesRead (sources : List Source) : List Nat :=
  (untilError (inOrder sources)).map (·.2)

/-- The layers of the sources overlaid on a layer in the order given, up to the first error. -/
def overlay (merged : Layer) : List Source → Except ConfigError Layer
  | [] => .ok merged
  | source :: rest =>
    match source.layer with
    | .error error => .error error
    | .ok layer => overlay (merged.merge layer) rest

end Source

/-- What loading a configuration yields. -/
structure Loaded where
  /-- The configuration, or why there is none. -/
  result : Except ConfigError Config
  /-- The events that loading leaves. -/
  events : List Event

/-- The event of a configuration that has been loaded. -/
def Config.loadedEvent (config : Config) : Event :=
  .configLoaded config.pollInterval.millisWord config.jitterFraction config.fetchTimeout.millisWord

/-- Loads a configuration from sources. -/
def loadFromSources (sources : List Source) : Loaded :=
  let ordered := (Source.inOrder sources).map (·.1)
  let result := (Source.overlay .empty ordered).bind Layer.finalize
  let reading := (Source.untilError (Source.inOrder sources)).flatMap fun source =>
    .loadingSource source.1.name :: source.1.events
  let finished := match result with
    | .ok config => [config.loadedEvent]
    | .error _ => []
  ⟨result, reading ++ finished⟩

end LiveFlags
