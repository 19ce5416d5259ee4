import LiveFlags.Proofs.Config.Sources
import LiveFlags.Proofs.Config.Variables

/-!
# Loading from a file and the environment

The file is read before the environment, so an error of the file is the result whatever the environment holds. If
there is none, the first variable that is set to a text that writes no number is the error. Otherwise each setting is
that of the environment, or else that of the file, or else the default, and the three together are checked
(`loads_in_layers`).
-/
namespace LiveFlags

/-- Sources that are given in the order of their precedence are read as they are given. -/
theorem Source.inOrder_of_sorted {sources : List Source}
    (sorted : sources.Pairwise fun left right => left.precedence.level ≤ right.precedence.level) :
    (inOrder sources).map (·.1) = sources :=
  eq_of_filter_eq (List.pairwise_map.mpr (sorted_inOrder sources)) sorted (filter_inOrder sources)

/-- A layer that sets nothing leaves every other as it is. -/
theorem Layer.merge_empty (layer : Layer) : Layer.empty.merge layer = layer := by
  simp [merge, empty]

/-- A configuration that is checked is one that is sound. -/
theorem Config.validated_eq_ok_iff {config checked : Config} :
    config.validated = .ok checked ↔ config.validate = .ok () ∧ checked = config := by
  unfold validated
  cases config.validate with
  | error fault => simp [Except.map]
  | ok _ => simp [Except.map, eq_comm]

/-- What is unsound about a configuration is the error of checking it. -/
theorem Config.validated_of_error {config : Config} {fault : ConfigError} (unsound : config.validate = .error fault) :
    config.validated = .error fault := by
  rw [validated, unsound]
  rfl

section Overlaying

-- The check is a variable here: with `Layer.finalize` in its place the equations below are the same, but comparing
-- their sides by computing would compute with the times of an unknown layer.
variable (check : Layer → Except ConfigError Config)

/-- A layer over one that sets nothing is checked as it is. -/
theorem Layer.bind_ok_empty (upper : Except ConfigError Layer) :
    ((Except.ok Layer.empty).bind fun first => upper.bind fun second => check (first.merge second)) =
      upper.bind check := by
  cases upper with
  | error error => rfl
  | ok layer => simp only [Except.bind, merge_empty]

/-- A layer is checked. -/
theorem Layer.bind_ok (layer : Layer) : (Except.ok layer).bind check = check layer := rfl

/-- Nothing is checked after an error. -/
theorem Layer.bind_error (error : ConfigError) : (Except.error error).bind check = .error error := rfl

/-- The first source is read, and its layer comes under those of the others. -/
theorem Source.bind_overlay_cons (merged : Layer) (source : Source) (rest : List Source) :
    (overlay merged (source :: rest)).bind check =
      source.layer.bind fun layer => (overlay (merged.merge layer) rest).bind check := by
  rw [overlay]
  cases source.layer with
  | error error => rfl
  | ok layer => rfl

/-- The layer of a single source is checked as it is. -/
theorem Source.bind_overlay_one (source : Source) :
    (overlay .empty [source]).bind check = source.layer.bind check := by
  rw [bind_overlay_cons]
  cases source.layer with
  | error error => rfl
  | ok layer => simp only [Layer.merge_empty, overlay, Except.bind]

/-- The layer of the second of two sources is laid over that of the first. -/
theorem Source.bind_overlay_two (lower upper : Source) :
    (overlay .empty [lower, upper]).bind check =
      lower.layer.bind fun first => upper.layer.bind fun second => check (first.merge second) := by
  rw [bind_overlay_cons]
  cases lower.layer with
  | error error => rfl
  | ok first =>
    simp only [Layer.merge_empty, Except.bind]
    rw [overlay]
    cases upper.layer with
    | error error => rfl
    | ok second => rfl

end Overlaying

/-- The defaults and sources of higher precedence are read in this order. -/
theorem result_loadFromSources {sources : List Source}
    (sorted : (Source.defaults :: sources).Pairwise fun left right => left.precedence.level ≤ right.precedence.level) :
    (loadFromSources (.defaults :: sources)).result = (Source.overlay .empty sources).bind Layer.finalize := by
  have result : (loadFromSources (.defaults :: sources)).result =
    (Source.overlay .empty ((Source.inOrder (.defaults :: sources)).map (·.1))).bind Layer.finalize := rfl
  have defaults : ∀ next : Layer → Except ConfigError Config, Source.defaults.layer.bind next = next .empty :=
    fun _ => rfl
  rw [result, Source.inOrder_of_sorted sorted, Source.bind_overlay_cons, defaults, Layer.merge_empty]

section Loading

variable (environment : Environment) (files : String → FileState) (path : String)

/-- Loading with a file reads the file, then the environment, and checks the settings of both. -/
theorem result_loadWithFile : (loadWithFile environment files path).result =
    ((files path).layer path).bind fun lower =>
      environment.layer.bind fun upper => (lower.merge upper).finalize := by
  unfold loadWithFile
  rw [result_loadFromSources (by simp [Source.defaults, FileState.source, Environment.source, Precedence.level]),
    Source.bind_overlay_two]
  simp only [FileState.source, Environment.source]

/-- Loading without a file reads the environment and checks its settings. -/
theorem result_loadFromEnvironment :
    (loadFromEnvironment environment).result = environment.layer.bind Layer.finalize := by
  unfold loadFromEnvironment
  rw [result_loadFromSources (by simp [Source.defaults, Environment.source, Precedence.level]),
    Source.bind_overlay_one]
  simp only [Environment.source]

/-- A missing file leaves the result as it is without one. -/
theorem result_of_missing (missing : files path = .missing) :
    (loadWithFile environment files path).result = (loadFromEnvironment environment).result := by
  have nothing : (files path).layer path = .ok .empty := by rw [missing, FileState.layer]
  rw [result_loadWithFile, result_loadFromEnvironment, nothing, Layer.bind_ok_empty]

/-- An error of the file is the result. -/
theorem result_of_fileError {error : ConfigError} (fails : (files path).layer path = .error error) :
    (loadWithFile environment files path).result = .error error := by
  rw [result_loadWithFile, fails, Layer.bind_error]

end Loading

/-- What the environment makes of the settings of a file, or of none. -/
structure Environment.Settles (environment : Environment) (lower : Layer) (result : Except ConfigError Config) :
    Prop where
  /-- The first variable that is set and writes no number is the error. -/
  faulty : ∀ fault, environment.FirstFault fault → result = .error fault
  /-- Otherwise there is one configuration whose settings are those of their variables, or else those of the file, or
  else the defaults. -/
  given : (∀ fault, ¬environment.FirstFault fault) → ∃! config, environment.Gives lower config
  /-- It is loaded just if it is sound. -/
  loads : ∀ config, result = .ok config ↔
    (∀ fault, ¬environment.FirstFault fault) ∧ environment.Gives lower config ∧ config.validate = .ok ()
  /-- What is unsound about it is the error. -/
  unsound : (∀ fault, ¬environment.FirstFault fault) → ∀ config, environment.Gives lower config →
    ∀ fault, config.validate = .error fault → result = .error fault

namespace Environment

/-- What is read of the environment is settled by it. -/
theorem settles (environment : Environment) (lower : Layer) :
    environment.Settles lower (environment.layer.bind fun upper => (lower.merge upper).finalize) := by
  cases came : environment.layer with
  | error fault =>
    have first := layer_eq_error_iff.mp came
    rw [Layer.bind_error]
    constructor
    case faulty =>
      intro other first'
      rw [Except.error.inj (came.symm.trans (layer_eq_error_iff.mpr first'))]
    case given => exact fun none => absurd first (none fault)
    case loads => exact fun config => iff_of_false (by simp) fun loaded => loaded.1 fault first
    case unsound => exact fun none => absurd first (none fault)
  | ok upper =>
    have none : ∀ fault, ¬environment.FirstFault fault := fun fault first =>
      absurd ((layer_eq_error_iff.mpr first).symm.trans came) (by simp)
    have gives : ∀ config, environment.Gives lower config ↔ config = (lower.merge upper).toConfig :=
      fun config => gives_iff came
    rw [Layer.bind_ok, Layer.finalize]
    constructor
    case faulty => exact fun fault first => absurd first (none fault)
    case given => exact fun _ => ⟨_, (gives _).mpr rfl, fun config given => (gives config).mp given⟩
    case loads =>
      intro config
      rw [Config.validated_eq_ok_iff, and_iff_right none, gives]
      constructor
      · rintro ⟨sound, rfl⟩
        exact ⟨rfl, sound⟩
      · rintro ⟨rfl, sound⟩
        exact ⟨sound, rfl⟩
    case unsound =>
      intro _ config given fault unsound
      rw [(gives config).mp given] at unsound
      exact Config.validated_of_error unsound

end Environment

/-- What loading from the environment and the file that it names must do. -/
structure LoadsInLayers (environment : Environment) (files : String → FileState) : Prop where
  /-- A variable that is a text and not empty names the file. -/
  named : ∀ path, path ≠ "" → environment.configFile = some (Text.Utf8.encode path) →
    loadConfig environment files = loadWithFile environment files path
  /-- Otherwise no file is read. -/
  unnamed : (∀ path, path ≠ "" → environment.configFile ≠ some (Text.Utf8.encode path)) →
    loadConfig environment files = loadFromEnvironment environment
  /-- Without a file the environment stands over the defaults alone. -/
  alone : environment.Settles .empty (loadFromEnvironment environment).result
  /-- A file that is missing is as none. -/
  missing : ∀ path, files path = .missing →
    (loadWithFile environment files path).result = (loadFromEnvironment environment).result
  /-- A file that cannot be read, or not as text, is the error, whatever the environment holds. -/
  unreadable : ∀ path, (files path = .unreadable ∨
      ∃ bytes, files path = .contents bytes ∧ ∀ text, bytes ≠ Text.Utf8.encode text) →
    (loadWithFile environment files path).result = .error (.fileRead path)
  /-- A file that is no table of settings is the error, whatever the environment holds. -/
  unparsable : ∀ path text, files path = .contents (Text.Utf8.encode text) → Layer.parseToml? text = none →
    (loadWithFile environment files path).result = .error (.fileParse path)
  /-- The environment stands over the settings of any other file. -/
  layered : ∀ path text lower, files path = .contents (Text.Utf8.encode text) →
    Layer.parseToml? text = some lower → environment.Settles lower (loadWithFile environment files path).result

/-- A configuration is loaded from the file that the environment names, if it names one, and from the environment over
it; an error of the file comes before one of the environment. -/
theorem loads_in_layers (environment : Environment) (files : String → FileState) :
    LoadsInLayers environment files where
  named path nonempty set := by
    have text : Environment.text? environment.configFile = some path :=
      Environment.text?_eq_some_iff.mpr ⟨set, nonempty⟩
    rw [loadConfig, text]
  unnamed unset := by
    have none : Environment.text? environment.configFile = none := by
      refine Option.eq_none_iff_forall_ne_some.mpr fun path text => ?_
      obtain ⟨set, nonempty⟩ := Environment.text?_eq_some_iff.mp text
      exact unset path nonempty set
    rw [loadConfig, none]
  alone := by
    have alone := environment.settles .empty
    simp only [Layer.merge_empty] at alone
    rw [result_loadFromEnvironment]
    exact alone
  missing path missing := result_of_missing environment files path missing
  unreadable path reason := by
    refine result_of_fileError environment files path ?_
    rcases reason with unreadable | ⟨bytes, contents, noText⟩
    · rw [unreadable, FileState.layer]
    · have none : Text.Utf8.text? bytes = none :=
        Option.eq_none_iff_forall_ne_some.mpr fun text read => noText text (Text.Utf8.text?_eq_some_iff.mp read).symm
      rw [contents, FileState.layer, none]
  unparsable path text contents none := by
    refine result_of_fileError environment files path ?_
    rw [contents, FileState.layer, Text.Utf8.text?_eq_some_iff.mpr rfl]
    simp only [none]
  layered path text lower contents parsed := by
    have layer : (files path).layer path = .ok lower := by
      rw [contents, FileState.layer, Text.Utf8.text?_eq_some_iff.mpr rfl]
      simp only [parsed]
    rw [result_loadWithFile, layer, Layer.bind_ok]
    exact environment.settles lower

section Settled

open Environment (IsSet Holds Refuses)

/-- An environment that names a file. One variable writes a number between blanks, one is empty and one is no text. -/
def padded : Environment :=
  ⟨some (Text.Utf8.encode " 45000 "), some [], some [0xFF], some (Text.Utf8.encode "flags.toml")⟩

/-- An environment that names a file and sets the spread alone, with a power of ten. -/
def scaled : Environment := ⟨none, some (Text.Utf8.encode "\t+2.5e-1 "), none, some (Text.Utf8.encode "flags.toml")⟩

/-- An environment that names a file and writes neither the spread nor the time for a fetch as a number. -/
def misspelt : Environment :=
  ⟨none, some (Text.Utf8.encode "0,5"), some (Text.Utf8.encode "soon"), some (Text.Utf8.encode "flags.toml")⟩

/-- A file with an interval of polls and a spread. -/
def spreadFile : FileState := .contents (Text.Utf8.encode "jitter_fraction = 0.5\npoll_interval_ms = 15000")

/-- A variable that is absent, empty or no text is not set. -/
theorem not_isSet {value : Option (List UInt8)} (nothing : value ∈ [none, some [], some [0xFF]]) (text : String) :
    ¬IsSet value text := by
  have none : ∀ value ∈ [none, some [], some [0xFF]], Environment.text? value = none := by decide +kernel
  exact Environment.text?_eq_none_iff.mp (none value nothing) text

/-- The interval is written between blanks. -/
theorem holds_padded : Holds WordText padded.pollInterval 45000 := by
  have trims : Text.Trims " 45000 ".toList ['4', '5', '0', '0', '0'] :=
    ⟨⟨[' '], [' '], by decide +kernel, by simp [Text.whiteSpace], by simp [Text.whiteSpace]⟩,
      by simp [Text.whiteSpace], by simp [Text.whiteSpace]⟩
  exact ⟨" 45000 ", _, ⟨rfl, by decide⟩, trims, .plain (by decide) (by decide)⟩

/-- A quarter is written with a sign, a point and a power of ten. -/
theorem floatText_quarter : FloatText ['+', '2', '.', '5', 'e', '-', '1'] 0.25 := by
  have written : DecimalText (['2'] ++ '.' :: (['5'] ++ ['e', '-', '1'])) _ :=
    .pointed (.inl (by decide)) (by decide) (by decide) (.back (.inl rfl) (by decide) (by decide))
  have exact : ((Nat.ofDigitChars 10 ['2'] 0 : ℚ) + Nat.ofDigitChars 10 ['5'] 0 / 10 ^ ['5'].length) *
      10 ^ (-(Nat.ofDigitChars 10 ['1'] 0 : ℤ)) = 1 / 4 := by decide +kernel
  have same : BinaryParts.ofFloat? 0.25 = some ⟨false, 4503599627370496, -54, true⟩ := by decide +kernel
  have value : BinaryParts.value ⟨false, 4503599627370496, -54, true⟩ = 1 / 4 := by decide +kernel
  have nearest := BinaryParts.Nearest.self ⟨false, 4503599627370496, -54, true⟩
  have small : (1 / 4 : ℚ) ≤ 2 ^ 1022 := le_trans (by norm_num) (one_le_pow₀ one_le_two)
  rw [value] at nearest
  rw [exact] at written
  exact .plus (.fraction written (.finite (BinaryParts.lt_infinityBound small) same rfl nearest))

/-- The spread is written between a tab and a blank. -/
theorem holds_scaled : Holds FloatText scaled.jitter 0.25 := by
  have trims : Text.Trims "\t+2.5e-1 ".toList ['+', '2', '.', '5', 'e', '-', '1'] :=
    ⟨⟨['\t'], [' '], by decide +kernel, by simp [Text.whiteSpace], by simp [Text.whiteSpace]⟩,
      by simp [Text.whiteSpace], by simp [Text.whiteSpace]⟩
  exact ⟨"\t+2.5e-1 ", _, ⟨rfl, by decide⟩, trims, floatText_quarter⟩

/-- A comma is no point. -/
theorem refuses_misspelt : Refuses FloatText misspelt.jitter "0,5" := by
  refine ⟨⟨rfl, by decide⟩, fun core number trims written => ?_⟩
  have unread : readFloat? (Text.trimChars "0,5".toList) = none := by decide +kernel
  obtain rfl := Text.trims_iff.mp trims
  exact Option.some_ne_none _ ((readFloat?_eq_some_iff.mpr written).symm.trans unread)

/-- Blanks around a number do not matter, a variable that is empty or no text leaves the setting to the file, and a
setting of neither has its default. Of two variables that are wrong the first is the error, unless the file cannot be
read. -/
theorem loads_in_layers_padded :
    (loadConfig padded fun _ => spreadFile).result = .ok ⟨.ofMillis 45000, 0.5, .ofMillis 10000⟩ ∧
      (loadConfig scaled fun _ => spreadFile).result = .ok ⟨.ofMillis 15000, 0.25, .ofMillis 10000⟩ ∧
      (loadConfig misspelt fun _ => spreadFile).result =
        .error (.invalidValue "RUNTIME_FLAGS_JITTER_FRACTION" "cannot parse '0,5'") ∧
      (loadConfig misspelt fun _ => .unreadable).result = .error (.fileRead "flags.toml") := by
  have parsed : Layer.parseToml? "jitter_fraction = 0.5\npoll_interval_ms = 15000" =
      some ⟨some 15000, some 0.5, none⟩ := by decide +kernel
  have settles : ∀ environment : Environment, environment.configFile = some (Text.Utf8.encode "flags.toml") →
      environment.Settles ⟨some 15000, some 0.5, none⟩ (loadConfig environment fun _ => spreadFile).result := by
    intro environment names
    have loads := loads_in_layers environment fun _ => spreadFile
    rw [loads.named "flags.toml" (by decide) names]
    exact loads.layered "flags.toml" _ _ rfl parsed
  refine ⟨?_, ?_, ?_, ?_⟩
  · refine ((settles padded rfl).loads _).mpr ⟨fun fault first => ?_, ⟨?_, ?_, ?_⟩, by decide +kernel⟩
    · cases first with
      | pollInterval refuses => exact holds_padded.not_refuses _ refuses
      | jitter _ refuses => exact not_isSet (by decide) _ refuses.1
      | timeout _ _ refuses => exact not_isSet (by decide) _ refuses.1
    · exact ⟨45000, .held holds_padded, rfl⟩
    · exact .lower (not_isSet (by decide)) rfl
    · exact ⟨10000, .default (not_isSet (by decide)) rfl, rfl⟩
  · refine ((settles scaled rfl).loads _).mpr ⟨fun fault first => ?_, ⟨?_, ?_, ?_⟩, by decide +kernel⟩
    · cases first with
      | pollInterval refuses => exact not_isSet (by decide) _ refuses.1
      | jitter _ refuses => exact holds_scaled.not_refuses _ refuses
      | timeout _ _ refuses => exact not_isSet (by decide) _ refuses.1
    · exact ⟨15000, .lower (not_isSet (by decide)) rfl, rfl⟩
    · exact .held holds_scaled
    · exact ⟨10000, .default (not_isSet (by decide)) rfl, rfl⟩
  · exact (settles misspelt rfl).faulty _ (.jitter (fun _ refuses => not_isSet (by decide) _ refuses.1) refuses_misspelt)
  · have loads := loads_in_layers misspelt fun _ => .unreadable
    rw [loads.named "flags.toml" (by decide) rfl]
    exact loads.unreadable "flags.toml" (.inl rfl)

end Settled

end LiveFlags
