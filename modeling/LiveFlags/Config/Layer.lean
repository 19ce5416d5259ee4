import LiveFlags.Config.Basic
import LiveFlags.Json.Printer
import LiveFlags.Json.Record

/-!
# Configuration layers

A layer sets some of the three settings. Layers are overlaid one on another, the later setting
winning field by field (`Layer.merge`), and what no layer sets takes its default (`Layer.finalize`).
A layer is written as a JSON object with all three fields, `null` for one that is not set; a spread
that is no finite number is written as `null` too.
-/
namespace LiveFlags

/-- Some of the settings of a configuration. -/
structure Layer where
  /-- The interval of polls in milliseconds. -/
  pollIntervalMs : Option UInt64
  /-- The spread of polls. -/
  jitterFraction : Option Float
  /-- The time for a fetch in milliseconds. -/
  fetchTimeoutMs : Option UInt64
  deriving DecidableEq

namespace Layer

/-- The layer that sets nothing. -/
def empty : Layer := ⟨none, none, none⟩

instance : Inhabited Layer := ⟨empty⟩

/-- The settings of the upper layer, and those of the lower one that it leaves open. -/
def merge (lower upper : Layer) : Layer where
  pollIntervalMs := upper.pollIntervalMs.or lower.pollIntervalMs
  jitterFraction := upper.jitterFraction.or lower.jitterFraction
  fetchTimeoutMs := upper.fetchTimeoutMs.or lower.fetchTimeoutMs

/-- The configuration that the layer stands for, defaults filled in. -/
def toConfig (layer : Layer) : Config where
  pollInterval := .ofMillis (layer.pollIntervalMs.getD Config.defaultPollIntervalMs)
  jitterFraction := layer.jitterFraction.getD Config.defaultJitterFraction
  fetchTimeout := .ofMillis (layer.fetchTimeoutMs.getD Config.defaultFetchTimeoutMs)

/-- The configuration that the layer stands for, if it is sound. -/
def finalize (layer : Layer) : Except ConfigError Config := layer.toConfig.validated

/-- The layer as plain JSON, its fields in their order. -/
def toJson (layer : Layer) : Json.Value :=
  .object [
    ("poll_interval_ms", layer.pollIntervalMs.elim .null .natural),
    ("jitter_fraction", layer.jitterFraction.elim .null .float),
    ("fetch_timeout_ms", layer.fetchTimeoutMs.elim .null .natural)]

/-- The layer as text. -/
def serialize (layer : Layer) : String := layer.toJson.print

/-- What has been read of a layer: each field, if it has been met. -/
structure Partial where
  /-- The interval of polls. -/
  pollIntervalMs : Option (Option UInt64)
  /-- The spread of polls. -/
  jitterFraction : Option (Option Float)
  /-- The time for a fetch. -/
  fetchTimeoutMs : Option (Option UInt64)

/-- The record that a layer is written as. -/
def record : Json.Record Partial where
  title := "struct ClientConfigLayer"
  initial := ⟨none, none, none⟩
  fields := [
    { name := "poll_interval_ms"
      present := fun read => read.pollIntervalMs.isSome
      read := fun read => do
        return { read with pollIntervalMs := some (← Json.optional Json.natural) }
      required := false
      omissible := false },
    { name := "jitter_fraction"
      present := fun read => read.jitterFraction.isSome
      read := fun read => do
        return { read with jitterFraction := some (← Json.optional Json.float) }
      required := false
      omissible := false },
    { name := "fetch_timeout_ms"
      present := fun read => read.fetchTimeoutMs.isSome
      read := fun read => do
        return { read with fetchTimeoutMs := some (← Json.optional Json.natural) }
      required := false
      omissible := false }]

/-- Reads a layer. -/
def reader : Json.Reader Layer := do
  let read ← record.reader
  return ⟨read.pollIntervalMs.getD none, read.jitterFraction.getD none, read.fetchTimeoutMs.getD none⟩

/-- Reads a text that is one layer. -/
def parse (text : String) : Except Json.Problem Layer :=
  Json.Reader.run reader (Json.Input.ofText text)

end Layer

end LiveFlags
