import LiveFlags.Config.Load
import LiveFlags.Proofs.Decimal.Reading
import LiveFlags.Proofs.Text.Blank
import LiveFlags.Proofs.Text.Utf8

/-!
# Variables of the environment

A variable is set if its bytes are a text that is not empty. What remains of the text without the white space at its
ends has to write a number (`Environment.Holds`), and a variable that is set and writes none is an error. Of several
errors the first counts, the variables taken in their order (`Environment.FirstFault`). Without an error each setting
is that of its variable, or else that of a lower layer, or else the default (`Environment.Gives`).
-/
namespace LiveFlags

/-- The text writes a word: a whole number that fits 64 bits. -/
def WordText (chars : List Char) (word : UInt64) : Prop := NaturalText chars word.toNat

namespace Environment

/-- The variable is set to a text that is not empty. -/
def IsSet (value : Option (List UInt8)) (text : String) : Prop := value = some (Text.Utf8.encode text) ∧ text ≠ ""

section Meaning

variable {α : Type} (writes : List Char → α → Prop)

/-- The variable is set to a text that writes a number between white space. -/
def Holds (value : Option (List UInt8)) (number : α) : Prop :=
  ∃ text core, IsSet value text ∧ Text.Trims text.toList core ∧ writes core number

/-- The variable is set to a text that writes no number. -/
def Refuses (value : Option (List UInt8)) (text : String) : Prop :=
  IsSet value text ∧ ∀ core number, Text.Trims text.toList core → ¬writes core number

/-- A setting is that of its variable, or else that of a lower layer, or else the default. -/
inductive Given (value : Option (List UInt8)) (lower : Option α) (default : α) : α → Prop
  /-- The variable is set. -/
  | held {number : α} (holds : Holds writes value number) : Given value lower default number
  /-- The variable is not set, and the lower layer has the setting. -/
  | lower {number : α} (unset : ∀ text, ¬IsSet value text) (set : lower = some number) :
    Given value lower default number
  /-- Neither has it. -/
  | default (unset : ∀ text, ¬IsSet value text) (none : lower = none) : Given value lower default default

end Meaning

/-- The error of the first variable that is set to a text that writes no number: of the interval of polls, of the
spread, and of the time for a fetch. -/
inductive FirstFault (environment : Environment) : ConfigError → Prop
  /-- The interval of polls is wrong. -/
  | pollInterval {text : String} (refuses : Refuses WordText environment.pollInterval text) :
    FirstFault environment (.invalidValue "RUNTIME_FLAGS_POLL_INTERVAL_MS" ("cannot parse '" ++ text ++ "'"))
  /-- The spread is wrong, and the interval is not. -/
  | jitter {text : String} (legible : ∀ text, ¬Refuses WordText environment.pollInterval text)
    (refuses : Refuses FloatText environment.jitter text) :
    FirstFault environment (.invalidValue "RUNTIME_FLAGS_JITTER_FRACTION" ("cannot parse '" ++ text ++ "'"))
  /-- The time for a fetch is wrong, and neither of the others is. -/
  | timeout {text : String} (legible : ∀ text, ¬Refuses WordText environment.pollInterval text)
    (legible' : ∀ text, ¬Refuses FloatText environment.jitter text)
    (refuses : Refuses WordText environment.timeout text) :
    FirstFault environment (.invalidValue "RUNTIME_FLAGS_FETCH_TIMEOUT_MS" ("cannot parse '" ++ text ++ "'"))

/-- The settings of the variables over those of a lower layer and the defaults: half a minute between polls, no spread
and ten seconds for a fetch. -/
structure Gives (environment : Environment) (lower : Layer) (config : Config) : Prop where
  /-- The interval of polls, in milliseconds. -/
  pollInterval : ∃ millis, Given WordText environment.pollInterval lower.pollIntervalMs 30000 millis ∧
    config.pollInterval.nanos = millis.toNat * 1000000
  /-- The spread. -/
  jitter : Given FloatText environment.jitter lower.jitterFraction 0.0 config.jitterFraction
  /-- The time for a fetch, in milliseconds. -/
  timeout : ∃ millis, Given WordText environment.timeout lower.fetchTimeoutMs 10000 millis ∧
    config.fetchTimeout.nanos = millis.toNat * 1000000

/-- The text of a variable is one that it is set to. -/
theorem text?_eq_some_iff {value : Option (List UInt8)} {text : String} : text? value = some text ↔ IsSet value text := by
  have set : (text.isEmpty = false) ↔ text ≠ "" := by
    rw [← Bool.not_eq_true, String.isEmpty_iff]
  unfold text? IsSet
  cases value with
  | none => simp
  | some bytes =>
    simp only [Option.bind_some, Option.filter_eq_some_iff, Text.Utf8.text?_eq_some_iff, Bool.not_eq_true', set]
    rw [Option.some.injEq, eq_comm]

/-- A variable has no text if it is set to none. -/
theorem text?_eq_none_iff {value : Option (List UInt8)} : text? value = none ↔ ∀ text, ¬IsSet value text := by
  rw [Option.eq_none_iff_forall_ne_some]
  exact forall_congr' fun text => not_congr text?_eq_some_iff

/-- A variable is set to one text. -/
theorem IsSet.unique {value : Option (List UInt8)} {text other : String} (set : IsSet value text)
    (set' : IsSet value other) : text = other :=
  Option.some.inj ((text?_eq_some_iff.mpr set).symm.trans (text?_eq_some_iff.mpr set'))

section Reading

variable {α : Type} {read : List Char → Option α} {writes : List Char → α → Prop}
  (reads : ∀ core number, read core = some number ↔ writes core number) {name : String}
  {value : Option (List UInt8)}

include reads

/-- A variable is not set, or it holds a number, or it is an error. -/
theorem setting_cases (name : String) (value : Option (List UInt8)) :
    (∀ text, ¬IsSet value text) ∧ setting read name value = .ok none ∨
      (∃ number, Holds writes value number ∧ setting read name value = .ok (some number)) ∨
        ∃ text, Refuses writes value text ∧
          setting read name value = .error (.invalidValue name ("cannot parse '" ++ text ++ "'")) := by
  cases found : text? value with
  | none =>
    left
    exact ⟨text?_eq_none_iff.mp found, by rw [setting, found]⟩
  | some text =>
    right
    have set := text?_eq_some_iff.mp found
    cases came : read (Text.trimChars text.toList) with
    | some number =>
      have written := (reads _ _).mp came
      exact .inl ⟨number, ⟨text, _, set, Text.trims_iff.mpr rfl, written⟩, by rw [setting, found]; simp only [came]⟩
    | none =>
      have refuses : Refuses writes value text := by
        refine ⟨set, fun core number trims written => ?_⟩
        obtain rfl := Text.trims_iff.mp trims
        exact Option.some_ne_none _ (((reads _ _).mpr written).symm.trans came)
      exact .inr ⟨text, refuses, by rw [setting, found]; simp only [came]⟩

/-- A variable holds one number. -/
theorem Holds.unique {number other : α} (holds : Holds writes value number) (holds' : Holds writes value other) :
    number = other := by
  obtain ⟨text, core, set, trims, written⟩ := holds
  obtain ⟨text', core', set', trims', written'⟩ := holds'
  obtain rfl := set.unique set'
  obtain rfl := (Text.trims_iff.mp trims).trans (Text.trims_iff.mp trims').symm
  exact Option.some.inj (((reads _ _).mpr written).symm.trans ((reads _ _).mpr written'))

omit reads in
/-- A variable that holds a number refuses no text. -/
theorem Holds.not_refuses {number : α} (holds : Holds writes value number) (text : String) :
    ¬Refuses writes value text := by
  obtain ⟨other, core, set, trims, written⟩ := holds
  rintro ⟨set', illegible⟩
  obtain rfl := set.unique set'
  exact illegible core number trims written

/-- A variable is an error just if it is set to a text that writes no number. -/
theorem setting_eq_error_iff {fault : ConfigError} : setting read name value = .error fault ↔
    ∃ text, Refuses writes value text ∧ fault = .invalidValue name ("cannot parse '" ++ text ++ "'") := by
  rcases setting_cases reads name value with ⟨unset, came⟩ | ⟨number, holds, came⟩ | ⟨text, refuses, came⟩
  · rw [came]
    exact iff_of_false (by simp) fun ⟨text, refuses, _⟩ => unset text refuses.1
  · rw [came]
    exact iff_of_false (by simp) fun ⟨text, refuses, _⟩ => holds.not_refuses text refuses
  · rw [came, Except.error.injEq, eq_comm]
    constructor
    · rintro rfl
      exact ⟨text, refuses, rfl⟩
    · rintro ⟨other, refuses', rfl⟩
      rw [refuses.1.unique refuses'.1]

/-- A variable that is no error refuses no text. -/
theorem not_refuses {found : Option α} (came : setting read name value = .ok found) (text : String) :
    ¬Refuses writes value text := by
  intro refuses
  have fails : setting read name value = .error _ := (setting_eq_error_iff reads).mpr ⟨text, refuses, rfl⟩
  exact absurd (fails.symm.trans came) (by simp)

/-- A variable that refuses no text is no error. -/
theorem exists_ok_of_legible (name : String) (legible : ∀ text, ¬Refuses writes value text) :
    ∃ found, setting read name value = .ok found := by
  rcases setting_cases reads name value with ⟨_, came⟩ | ⟨_, _, came⟩ | ⟨text, refuses, _⟩
  · exact ⟨_, came⟩
  · exact ⟨_, came⟩
  · exact absurd refuses (legible text)

/-- A setting is that of the first place that has it. -/
theorem given_iff {found : Option α} (came : setting read name value = .ok found) {lower : Option α}
    {default number : α} : Given writes value lower default number ↔ number = (found.or lower).getD default := by
  rcases setting_cases reads name value with ⟨unset, came'⟩ | ⟨held, holds, came'⟩ | ⟨text, refuses, came'⟩
  · obtain rfl := Except.ok.inj (came.symm.trans came')
    rw [Option.none_or]
    constructor
    · intro given
      cases given with
      | held holds =>
        obtain ⟨text, _, set, _⟩ := holds
        exact absurd set (unset text)
      | lower _ set => rw [set, Option.getD_some]
      | default _ none => rw [none, Option.getD_none]
    · rintro rfl
      cases lower with
      | none => exact .default unset rfl
      | some number => exact .lower unset rfl
  · obtain rfl := Except.ok.inj (came.symm.trans came')
    rw [Option.some_or, Option.getD_some]
    constructor
    · intro given
      cases given with
      | held holds' => exact holds'.unique reads holds
      | lower unset | default unset =>
        obtain ⟨text, _, set, _⟩ := holds
        exact absurd set (unset text)
    · rintro rfl
      exact .held holds
  · exact absurd (came.symm.trans came') (by simp)

end Reading

/-- A word is read from just the texts that write one. -/
theorem readNatural?_iff_wordText (chars : List Char) (word : UInt64) :
    readNatural? chars = some word ↔ WordText chars word := readNatural?_eq_some_iff

/-- A double is read from just the texts that write one. -/
theorem readFloat?_iff_floatText (chars : List Char) (number : Float) :
    readFloat? chars = some number ↔ FloatText chars number := readFloat?_eq_some_iff

section Layers

variable {environment : Environment} {upper lower : Layer}

/-- A layer of the environment has what its variables have. -/
theorem setting_of_layer (came : environment.layer = .ok upper) :
    setting readNatural? pollIntervalName environment.pollInterval = .ok upper.pollIntervalMs ∧
      setting readFloat? jitterName environment.jitter = .ok upper.jitterFraction ∧
        setting readNatural? timeoutName environment.timeout = .ok upper.fetchTimeoutMs := by
  unfold layer at came
  cases first : setting readNatural? pollIntervalName environment.pollInterval with
  | error fault =>
    rw [first] at came
    contradiction
  | ok millis =>
    cases second : setting readFloat? jitterName environment.jitter with
    | error fault =>
      rw [first, second] at came
      contradiction
    | ok fraction =>
      cases third : setting readNatural? timeoutName environment.timeout with
      | error fault =>
        rw [first, second, third] at came
        contradiction
      | ok millis' =>
        rw [first, second, third] at came
        obtain rfl := Except.ok.inj came
        exact ⟨rfl, rfl, rfl⟩

/-- The error of the environment is the first of its variables. -/
theorem layer_eq_error_iff {fault : ConfigError} : environment.layer = .error fault ↔ environment.FirstFault fault := by
  constructor
  · intro came
    unfold layer at came
    cases first : setting readNatural? pollIntervalName environment.pollInterval with
    | error other =>
      rw [first] at came
      obtain rfl := Except.error.inj came
      obtain ⟨text, refuses, rfl⟩ := (setting_eq_error_iff readNatural?_iff_wordText).mp first
      exact .pollInterval refuses
    | ok millis =>
      have legible := not_refuses readNatural?_iff_wordText first
      cases second : setting readFloat? jitterName environment.jitter with
      | error other =>
        rw [first, second] at came
        obtain rfl := Except.error.inj came
        obtain ⟨text, refuses, rfl⟩ := (setting_eq_error_iff readFloat?_iff_floatText).mp second
        exact .jitter legible refuses
      | ok fraction =>
        have legible' := not_refuses readFloat?_iff_floatText second
        cases third : setting readNatural? timeoutName environment.timeout with
        | error other =>
          rw [first, second, third] at came
          obtain rfl := Except.error.inj came
          obtain ⟨text, refuses, rfl⟩ := (setting_eq_error_iff readNatural?_iff_wordText).mp third
          exact .timeout legible legible' refuses
        | ok millis' =>
          rw [first, second, third] at came
          contradiction
  · intro fails
    unfold layer
    cases fails with
    | pollInterval refuses =>
      have first : setting readNatural? pollIntervalName environment.pollInterval = .error _ :=
        (setting_eq_error_iff readNatural?_iff_wordText).mpr ⟨_, refuses, rfl⟩
      rw [first]
      rfl
    | jitter legible refuses =>
      obtain ⟨millis, first⟩ := exists_ok_of_legible readNatural?_iff_wordText pollIntervalName legible
      have second : setting readFloat? jitterName environment.jitter = .error _ :=
        (setting_eq_error_iff readFloat?_iff_floatText).mpr ⟨_, refuses, rfl⟩
      rw [first, second]
      rfl
    | timeout legible legible' refuses =>
      obtain ⟨millis, first⟩ := exists_ok_of_legible readNatural?_iff_wordText pollIntervalName legible
      obtain ⟨fraction, second⟩ := exists_ok_of_legible readFloat?_iff_floatText jitterName legible'
      have third : setting readNatural? timeoutName environment.timeout = .error _ :=
        (setting_eq_error_iff readNatural?_iff_wordText).mpr ⟨_, refuses, rfl⟩
      rw [first, second, third]
      rfl

/-- The layer of the environment over another stands for the settings of both. -/
theorem gives_iff (came : environment.layer = .ok upper) {config : Config} :
    environment.Gives lower config ↔ config = (lower.merge upper).toConfig := by
  obtain ⟨first, second, third⟩ := setting_of_layer came
  obtain ⟨interval, jitter, timeout⟩ := config
  constructor
  · rintro ⟨⟨millis, given, nanos⟩, spread, ⟨millis', given', nanos'⟩⟩
    obtain rfl := (given_iff readNatural?_iff_wordText first).mp given
    obtain rfl := (given_iff readFloat?_iff_floatText second).mp spread
    obtain rfl := (given_iff readNatural?_iff_wordText third).mp given'
    rw [Layer.toConfig, Config.mk.injEq]
    exact ⟨Duration.ext nanos, rfl, Duration.ext nanos'⟩
  · intro same
    rw [Layer.toConfig, Config.mk.injEq] at same
    obtain ⟨rfl, rfl, rfl⟩ := same
    constructor
    · exact ⟨_, (given_iff readNatural?_iff_wordText first).mpr rfl, rfl⟩
    · exact (given_iff readFloat?_iff_floatText second).mpr rfl
    · exact ⟨_, (given_iff readNatural?_iff_wordText third).mpr rfl, rfl⟩

end Layers

end Environment

end LiveFlags
