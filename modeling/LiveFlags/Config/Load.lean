import LiveFlags.Config.Source
import LiveFlags.Text.Blank
import LiveFlags.Text.Utf8
import LiveFlags.Toml.Reader

/-!
# Loading from a file and the environment

Settings come from built-in defaults, from a TOML file and from environment variables, the later
winning. The environment may name the file. A variable that is empty or is not UTF-8 counts as unset;
a file that does not exist sets nothing; a file that is no text or no table of settings is an error,
and so is a variable whose trimmed value is no number.
-/
namespace LiveFlags

/-- The environment variables that matter, as bytes. -/
structure Environment where
  /-- The interval of polls in milliseconds. -/
  pollInterval : Option (List UInt8)
  /-- The spread of polls. -/
  jitter : Option (List UInt8)
  /-- The time for a fetch in milliseconds. -/
  timeout : Option (List UInt8)
  /-- The path of a configuration file. -/
  configFile : Option (List UInt8)
  deriving DecidableEq, Repr

namespace Environment

/-- The environment in which nothing is set. -/
def empty : Environment := ⟨none, none, none, none⟩

/-- The name of the variable with the interval of polls. -/
def pollIntervalName : String := "RUNTIME_FLAGS_POLL_INTERVAL_MS"

/-- The name of the variable with the spread of polls. -/
def jitterName : String := "RUNTIME_FLAGS_JITTER_FRACTION"

/-- The name of the variable with the time for a fetch. -/
def timeoutName : String := "RUNTIME_FLAGS_FETCH_TIMEOUT_MS"

/-- The text of a variable, if it is set to one that is not empty. -/
def text? (value : Option (List UInt8)) : Option String :=
  (value.bind Text.Utf8.text?).filter fun text => !text.isEmpty

/-- The setting that a variable holds, none if it is unset. -/
def setting {α : Type} (read : List Char → Option α) (name : String)
    (value : Option (List UInt8)) : Except ConfigError (Option α) :=
  match text? value with
  | none => .ok none
  | some text =>
    match read (Text.trimChars text.toList) with
    | some value => .ok (some value)
    | none => .error (.invalidValue name ("cannot parse '" ++ text ++ "'"))

/-- The layer of the environment: the interval is read first, then the spread, then the time for a
fetch. -/
def layer (environment : Environment) : Except ConfigError Layer := do
  let pollIntervalMs ← setting readNatural? pollIntervalName environment.pollInterval
  let jitterFraction ← setting readFloat? jitterName environment.jitter
  let fetchTimeoutMs ← setting readNatural? timeoutName environment.timeout
  return ⟨pollIntervalMs, jitterFraction, fetchTimeoutMs⟩

/-- The environment as a source. -/
def source (environment : Environment) : Source :=
  ⟨"environment", .environment, environment.layer, []⟩

end Environment

/-- What a path leads to. -/
inductive FileState where
  /-- Nothing. -/
  | missing
  /-- Something that cannot be read, such as a directory. -/
  | unreadable
  /-- A file with these bytes. -/
  | contents (bytes : List UInt8)
  deriving DecidableEq, Repr

namespace Layer

/-- A whole number that is not negative. -/
def tomlNatural? : Toml.Value → Option UInt64
  | .integer value => if 0 ≤ value then some (UInt64.ofNat value.toNat) else none
  | _ => none

/-- A number, whole or not. -/
def tomlFloat? : Toml.Value → Option Float
  | .integer value => some (Float.ofInt value)
  | .float value => some value
  | _ => none

/-- The setting of a key; the whole fails if the key has a value of the wrong type. -/
def tomlSetting {α : Type} (read : Toml.Value → Option α) (key : String) (entries : Toml.Entries) :
    Option (Option α) :=
  match entries.get? key with
  | none => some none
  | some value => (read value).map some

/-- The layer that a table of settings stands for; other keys do not matter. -/
def ofToml? (entries : Toml.Entries) : Option Layer := do
  let pollIntervalMs ← tomlSetting tomlNatural? "poll_interval_ms" entries
  let jitterFraction ← tomlSetting tomlFloat? "jitter_fraction" entries
  let fetchTimeoutMs ← tomlSetting tomlNatural? "fetch_timeout_ms" entries
  return ⟨pollIntervalMs, jitterFraction, fetchTimeoutMs⟩

/-- Reads a text as a table of settings. -/
def parseToml? (text : String) : Option Layer :=
  (Toml.parse? text).bind ofToml?

end Layer

namespace FileState

/-- The layer of a file. -/
def layer (path : String) : FileState → Except ConfigError Layer
  | .missing => .ok .empty
  | .unreadable => .error (.fileRead path)
  | .contents bytes =>
    match Text.Utf8.text? bytes with
    | none => .error (.fileRead path)
    | some text =>
      match Layer.parseToml? text with
      | none => .error (.fileParse path)
      | some layer => .ok layer

/-- The events of reading a file. -/
def events (path : String) (file : FileState) : List Event :=
  match file, file.layer path with
  | .missing, _ => [.configFileMissing path]
  | _, .ok _ => [.configFileParsed path]
  | _, .error _ => []

/-- A file as a source. -/
def source (path : String) (file : FileState) : Source :=
  ⟨"toml-config", .file, file.layer path, file.events path⟩

end FileState

/-- Loads from the defaults and the environment. -/
def loadFromEnvironment (environment : Environment) : Loaded :=
  loadFromSources [.defaults, environment.source]

/-- Loads from the defaults, a file and the environment. -/
def loadWithFile (environment : Environment) (files : String → FileState) (path : String) : Loaded :=
  loadFromSources [.defaults, (files path).source path, environment.source]

/-- Loads from the defaults, the file that the environment names, if it names one, and the
environment. -/
def loadConfig (environment : Environment) (files : String → FileState) : Loaded :=
  match Environment.text? environment.configFile with
  | some path => loadWithFile environment files path
  | none => loadFromEnvironment environment

end LiveFlags
