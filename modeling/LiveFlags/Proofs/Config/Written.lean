import LiveFlags.Proofs.Config.Loading
import LiveFlags.Proofs.Json.Typed

/-!
# Layers written and read back

A layer is read back from its text with all its settings, except that a spread which is no finite number is
written like one that is not set (`Layer.parse_serialize`). So whatever layer it is laid over, a layer with a
finite spread or none comes to the same configuration, or the same error, before and after. With another
spread it never comes to a configuration before, and after it comes to what it would without the spread
(`merges_alike_unless_infinite`).
-/
namespace LiveFlags

namespace Layer

variable {layer : Layer}

/-- The spread of the layer, if it is a finite number, is read back from its own text. -/
def Legible (layer : Layer) : Prop :=
  ∀ spread, layer.jitterFraction = some spread → spread.isFinite = true → (Json.Number.float spread).Legible

/-- The layer with its spread only if this is a finite number. -/
def written (layer : Layer) : Layer :=
  { layer with jitterFraction := layer.jitterFraction.filter Float.isFinite }

/-- A setting in milliseconds is taken for itself, and `null` for none. -/
theorem takes_millis (setting : Option UInt64) :
    Json.Reader.Takes (Json.optional Json.natural) (setting.elim .null .natural : Json.Value).print setting := by
  cases setting with
  | none => exact Json.takes_null _
  | some value => exact Json.takes_optional_natural value

/-- A spread is taken for itself if it is finite, and otherwise for none. -/
theorem takes_spread (legible : layer.Legible) :
    Json.Reader.Takes (Json.optional Json.float) (layer.jitterFraction.elim .null .float : Json.Value).print
      layer.written.jitterFraction := by
  unfold written
  cases set : layer.jitterFraction with
  | none => exact Json.takes_null _
  | some spread =>
    cases finite : spread.isFinite with
    | true =>
      have takes := Json.takes_optional_float (legible spread set finite)
      simpa [Json.Value.float, finite, Option.filter, Json.Value.print] using takes
    | false =>
      have takes := Json.takes_null Json.float
      simpa [Json.Value.float, finite, Option.filter] using takes

/-- The members of a layer are read one after the other. -/
theorem takes_record (legible : layer.Legible) :
    Json.Reader.Takes record.reader layer.serialize
      ⟨some layer.pollIntervalMs, some layer.written.jitterFraction, some layer.fetchTimeoutMs⟩ := by
  refine Json.Record.takes_reader (fun fuel rest enough => ?_) rfl
  obtain ⟨fuel, rfl⟩ : ∃ less, fuel = less + 3 := Nat.exists_eq_add_of_le' enough
  have interval := Json.Reader.Takes.map (takes_millis layer.pollIntervalMs)
    fun read => { record.initial with pollIntervalMs := some read }
  have spread := Json.Reader.Takes.map (takes_spread legible)
    fun read => Partial.mk (some layer.pollIntervalMs) (some read) none
  have timeout := Json.Reader.Takes.map (takes_millis layer.fetchTimeoutMs)
    fun read => Partial.mk (some layer.pollIntervalMs) (some layer.written.jitterFraction) (some read)
  rw [Json.Input.ofText_members, List.append_assoc, List.cons_append]
  refine (Json.Record.members_member rfl rfl interval (Json.delimited_cons (.inl rfl) _)).trans ?_
  rw [Json.skipSpace_of_solid rfl, Json.Input.ofText_members, List.append_assoc, List.cons_append]
  refine (Json.Record.members_member rfl rfl spread (Json.delimited_cons (.inl rfl) _)).trans ?_
  rw [Json.skipSpace_of_solid rfl, Json.printMembers]
  exact Json.Record.members_member rfl rfl timeout (Json.delimited_cons (.inr (.inr rfl)) rest)

/-- A layer is read back from its text, its spread only if this is a finite number. -/
theorem parse_serialize (legible : layer.Legible) : parse layer.serialize = .ok layer.written :=
  (Json.Reader.Takes.map (takes_record legible) fun read =>
    Layer.mk (read.pollIntervalMs.getD none) (read.jitterFraction.getD none) (read.fetchTimeoutMs.getD none)).run

/-- A layer without a spread, or with one that is a finite number, is written as it is. -/
theorem written_of_finite (finite : ∀ spread, layer.jitterFraction = some spread → spread.isFinite = true) :
    layer.written = layer := by
  have kept : layer.jitterFraction.filter Float.isFinite = layer.jitterFraction := by
    cases set : layer.jitterFraction with
    | none => rfl
    | some spread => rw [Option.filter_some, if_pos (finite spread set)]
  rw [written, kept]

/-- A spread that is no finite number is not written. -/
theorem written_of_infinite {spread : Float} (set : layer.jitterFraction = some spread)
    (infinite : spread.isFinite = false) : layer.written = { layer with jitterFraction := none } := by
  have lost : layer.jitterFraction.filter Float.isFinite = none := by
    rw [set, Option.filter_some, if_neg (by simp [infinite])]
  rw [written, lost]

/-- A layer with a spread that is no finite number does not come to a configuration, whatever it is laid over. -/
theorem finalize_ne_ok_of_infinite {spread : Float} (set : layer.jitterFraction = some spread)
    (infinite : spread.isFinite = false) (lower : Layer) (config : Config) :
    (lower.merge layer).finalize ≠ .ok config := by
  intro finalized
  have checked : (lower.merge layer).toConfig.validated = .ok config := finalized
  obtain ⟨sound, rfl⟩ := Config.validated_eq_ok_iff.mp checked
  obtain ⟨_, _, finite, _⟩ := Config.bounds_of_validate sound
  have wins : (lower.merge layer).toConfig.jitterFraction = spread := by simp [toConfig, merge, set]
  rw [wins, infinite] at finite
  contradiction

end Layer

/-- What reading a layer back must keep of it. -/
structure Layer.ReadsAs (layer read : Layer) : Prop where
  /-- The interval of polls. -/
  pollIntervalMs : read.pollIntervalMs = layer.pollIntervalMs
  /-- The time for a fetch. -/
  fetchTimeoutMs : read.fetchTimeoutMs = layer.fetchTimeoutMs
  /-- A spread that is not set or finite, and then what the layer comes to over any other: the same configuration or
  the same error. -/
  finite : (∀ spread, layer.jitterFraction = some spread → spread.isFinite = true) →
    read.jitterFraction = layer.jitterFraction ∧
      ∀ lower : Layer, (lower.merge read).finalize = (lower.merge layer).finalize
  /-- Any other spread is lost. Over no layer did the one with it come to a configuration, and over every one it now
  comes to what it would without the spread. -/
  infinite : ∀ spread, layer.jitterFraction = some spread → spread.isFinite = false →
    read.jitterFraction = none ∧ ∀ lower : Layer,
      (∀ config, (lower.merge layer).finalize ≠ .ok config) ∧
        (lower.merge read).finalize = (lower.merge { layer with jitterFraction := none }).finalize

/-- Every layer is read back from its text. Laid over any other it comes to the same configuration or error as before,
unless its spread is no finite number: it was unsound then, and now it leaves the spread to the lower layer. -/
theorem merges_alike_unless_infinite {layer : Layer} (legible : layer.Legible) :
    ∃ read, Layer.parse layer.serialize = .ok read ∧ layer.ReadsAs read := by
  refine ⟨layer.written, Layer.parse_serialize legible, rfl, rfl, fun finite => ?_, fun spread set infinite => ?_⟩
  · have same := Layer.written_of_finite finite
    refine ⟨by rw [same], fun lower => ?_⟩
    rw [same]
  · have lost := Layer.written_of_infinite set infinite
    refine ⟨by rw [lost], fun lower => ⟨Layer.finalize_ne_ok_of_infinite set infinite lower, ?_⟩⟩
    rw [lost]

/-- A layer with the longest interval and half a spread is read back, and wins over another. -/
theorem merges_alike_unless_infinite_half :
    let layer : Layer := ⟨some 18446744073709551615, some 0.5, none⟩
    let lower : Layer := ⟨some 15000, some 0.25, some 5000⟩
    layer.Legible ∧ ∃ read, Layer.parse layer.serialize = .ok read ∧
      (lower.merge read).finalize = (lower.merge layer).finalize ∧
      (lower.merge layer).finalize = .ok ⟨.ofMillis 18446744073709551615, 0.5, .ofMillis 5000⟩ := by
  intro layer lower
  have legible : layer.Legible := by
    intro spread set _
    obtain rfl := Option.some.inj set
    exact Json.legible_half
  have finite : ∀ spread, layer.jitterFraction = some spread → spread.isFinite = true := by
    intro spread set
    obtain rfl := Option.some.inj set
    decide +kernel
  obtain ⟨read, parsed, readsAs⟩ := merges_alike_unless_infinite legible
  exact ⟨legible, read, parsed, (readsAs.finite finite).2 lower, by decide +kernel⟩

/-- A layer with a spread that is no number comes to no configuration over one that sets nothing. Written and read
back it does. -/
theorem spread_of_no_number_lost :
    let layer : Layer := ⟨none, some (0.0 / 0.0), none⟩
    Layer.parse layer.serialize = .ok .empty ∧
      (Layer.empty.merge .empty).finalize = .ok .default ∧
      (Layer.empty.merge layer).finalize = .error (.unsound (.jitterOutOfRange (0.0 / 0.0))) := by
  intro layer
  have infinite : Float.isFinite (0.0 / 0.0) = false := by decide +kernel
  have legible : layer.Legible := by
    intro spread set finite
    obtain rfl := Option.some.inj set
    rw [infinite] at finite
    contradiction
  refine ⟨?_, by decide +kernel, by decide +kernel⟩
  rw [Layer.parse_serialize legible, Layer.written_of_infinite rfl infinite]
  rfl

end LiveFlags
