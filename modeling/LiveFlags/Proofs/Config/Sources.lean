import LiveFlags.Config.Source
import LiveFlags.Proofs.Client.Waits
import Mathlib.Data.List.Sort

/-!
# Configurations from sources

Sources are read in the order of their precedence, and sources of one precedence in the order given
(`Source.InStableOrder`), so only the order within each precedence matters (`Source.inOrder_of_rearranged`). The first
error ends the reading. If there is none, each setting is that of the last source that sets it
(`Source.overlay_of_read`), and the three together are checked (`resolves_sources`).
-/
namespace LiveFlags

section Sorting

variable {α : Type} (key : α → Nat) (list : List α)

/-- Comparing keys is transitive. -/
theorem le_key_trans (first second third : α) (before : decide (key first ≤ key second) = true)
    (after : decide (key second ≤ key third) = true) : decide (key first ≤ key third) = true := by
  rw [decide_eq_true_eq] at before after ⊢
  exact Nat.le_trans before after

/-- Of two keys one is not greater than the other. -/
theorem le_key_total (left right : α) : (decide (key left ≤ key right) || decide (key right ≤ key left)) = true := by
  rw [Bool.or_eq_true, decide_eq_true_eq, decide_eq_true_eq]
  exact Nat.le_total _ _

/-- A list that is sorted by a key has its keys in order. -/
theorem sorted_mergeSort :
    (list.mergeSort fun left right => key left ≤ key right).Pairwise fun left right => key left ≤ key right := by
  have sorted := List.pairwise_mergeSort (le_key_trans key) (le_key_total key) list
  simpa using sorted

/-- Sorting by a key leaves the elements of one key in their order. -/
theorem filter_mergeSort (value : Nat) :
    (list.mergeSort fun left right => key left ≤ key right).filter (key · = value) =
      list.filter (key · = value) := by
  have alike : (list.filter (key · = value)).Pairwise fun left right =>
      decide (key left ≤ key right) = true := by
    refine List.pairwise_iff_forall_sublist.mpr fun {left right} within => ?_
    have first : key left = value := by simpa using (List.mem_filter.mp (within.subset (by simp))).2
    have second : key right = value := by simpa using (List.mem_filter.mp (within.subset (by simp))).2
    rw [decide_eq_true_eq, first, second]
  -- a part that is in order already is found again in the whole
  have kept : (list.filter (key · = value)).Sublist (list.mergeSort fun left right => key left ≤ key right) :=
    List.sublist_mergeSort (le_key_trans key) (le_key_total key) alike List.filter_sublist
  have within := kept.filter (key · = value)
  rw [List.filter_filter] at within
  simp only [Bool.and_self] at within
  have many := ((List.mergeSort_perm list fun left right => key left ≤ key right).filter (key · = value)).length_eq
  exact (within.eq_of_length many.symm).symm

variable {key}

/-- Lists with the same elements of each key have the same elements. -/
theorem mem_of_filter_eq {left right : List α}
    (same : ∀ value, left.filter (key · = value) = right.filter (key · = value)) {element : α}
    (member : element ∈ left) : element ∈ right := by
  have here : element ∈ left.filter (key · = key element) := List.mem_filter.mpr ⟨member, by simp⟩
  rw [same] at here
  exact (List.mem_filter.mp here).1

/-- The first element of a list in order has the least key. -/
theorem key_head_le {head : α} {tail : List α} (sorted : (head :: tail).Pairwise fun one two => key one ≤ key two)
    {element : α} (member : element ∈ head :: tail) : key head ≤ key element := by
  rcases List.mem_cons.mp member with rfl | later
  · exact Nat.le_refl _
  · exact (List.pairwise_cons.mp sorted).1 element later

/-- Lists that are in order by a key are equal if they have the same elements of each key in the same order. -/
theorem eq_of_filter_eq {left right : List α} (first : left.Pairwise fun one two => key one ≤ key two)
    (second : right.Pairwise fun one two => key one ≤ key two)
    (same : ∀ value, left.filter (key · = value) = right.filter (key · = value)) : left = right := by
  induction left generalizing right with
  | nil =>
    cases right with
    | nil => rfl
    | cons head tail => simpa using same (key head)
  | cons head tail ih =>
    cases right with
    | nil => simpa using same (key head)
    | cons head' tail' =>
      have there : head ∈ head' :: tail' := mem_of_filter_eq same List.mem_cons_self
      have there' : head' ∈ head :: tail := mem_of_filter_eq (fun value => (same value).symm) List.mem_cons_self
      have equal : key head = key head' := Nat.le_antisymm (key_head_le first there') (key_head_le second there)
      have heads := same (key head)
      simp only [List.filter_cons, equal, decide_true, if_true, List.cons.injEq] at heads
      obtain rfl := heads.1
      refine congrArg (head :: ·) (ih first.of_cons second.of_cons fun value => ?_)
      have tails := same value
      simp only [List.filter_cons] at tails
      split at tails
      · exact (List.cons.inj tails).2
      · exact tails

end Sorting

namespace Source

variable {sources other : List Source}

/-- The sources in the order of their precedence, those of one precedence in the order of their places. -/
structure InStableOrder (sources : List Source) (ordered : List (Source × Nat)) : Prop where
  /-- Every source is there once, with its place. -/
  complete : ordered.Perm sources.zipIdx
  /-- A source comes before another if its precedence is lower, or equal and its place earlier. -/
  stable : ordered.Pairwise fun left right =>
    left.1.precedence.level < right.1.precedence.level ∨
      left.1.precedence.level = right.1.precedence.level ∧ left.2 < right.2

/-- The same sources, those of one precedence in the same order. -/
def Rearranged (sources other : List Source) : Prop :=
  ∀ precedence, sources.filter (·.precedence = precedence) = other.filter (·.precedence = precedence)

/-- The last value of a setting in a list of sources, if one of them sets it. -/
def lastSet {α : Type} (setting : Layer → Option α) (sources : List Source) : Option α :=
  (sources.filterMap fun source => source.layer.toOption.bind setting).getLast?

/-- The settings that a list of sources stands for, each from the last source that sets it. -/
def combined (sources : List Source) : Config where
  pollInterval := .ofMillis ((lastSet (·.pollIntervalMs) sources).getD Config.defaultPollIntervalMs)
  jitterFraction := (lastSet (·.jitterFraction) sources).getD Config.defaultJitterFraction
  fetchTimeout := .ofMillis ((lastSet (·.fetchTimeoutMs) sources).getD Config.defaultFetchTimeoutMs)

/-- The source yields a layer. -/
def IsRead (source : Source) : Prop := ∃ layer, source.layer = .ok layer

/-- The events of reading a source. -/
def readingEvents (source : Source) : List Event := .loadingSource source.name :: source.events

/-- Precedences of one level are equal. -/
theorem level_inj {left right : Precedence} : left.level = right.level ↔ left = right := by
  cases left <;> cases right <;> decide

/-- The level of a source in a list with places. -/
abbrev levelAt (placed : Source × Nat) : Nat := placed.1.precedence.level

/-- The sources that are read one after the other have their levels in order. -/
theorem sorted_inOrder (sources : List Source) :
    (inOrder sources).Pairwise fun left right => levelAt left ≤ levelAt right :=
  sorted_mergeSort levelAt sources.zipIdx

/-- Sources are read in the order of their precedence, and those of one precedence as they are given. -/
theorem inStableOrder_inOrder (sources : List Source) : InStableOrder sources (inOrder sources) where
  complete := List.mergeSort_perm _ _
  stable := by
    have places : sources.zipIdx.Pairwise fun left right => left.2 < right.2 := by
      have ascending := List.pairwise_lt_range' 1 (s := 0) (n := sources.length)
      rw [← List.zipIdx_map_snd 0 sources] at ascending
      exact List.pairwise_map.mp ascending
    refine List.pairwise_iff_forall_sublist.mpr fun {left right} within => ?_
    have levels := List.pairwise_iff_forall_sublist.mp (sorted_inOrder sources) within
    rcases Nat.lt_or_eq_of_le levels with lower | equal
    · exact .inl lower
    · refine .inr ⟨equal, ?_⟩
      have alike := within.filter (levelAt · = levelAt right)
      rw [inOrder, filter_mergeSort levelAt] at alike
      simp only [equal, List.filter_cons, decide_true, if_true, List.filter_nil] at alike
      exact List.pairwise_iff_forall_sublist.mp places (alike.trans List.filter_sublist)

/-- Putting sources in order leaves those of one level as they are given. -/
theorem filter_inOrder (sources : List Source) (level : Nat) :
    ((inOrder sources).map (·.1)).filter (·.precedence.level = level) =
      sources.filter (·.precedence.level = level) := by
  have places := filter_mergeSort levelAt sources.zipIdx level
  calc ((inOrder sources).map (·.1)).filter (·.precedence.level = level)
      = ((inOrder sources).filter (levelAt · = level)).map (·.1) := List.filter_map
    _ = (sources.zipIdx.filter (levelAt · = level)).map (·.1) := congrArg (List.map (·.1)) places
    _ = (sources.zipIdx.map (·.1)).filter (·.precedence.level = level) := by
      rw [List.filter_map]
      rfl
    _ = sources.filter (·.precedence.level = level) :=
      congrArg (List.filter (·.precedence.level = level)) (List.zipIdx_map_fst 0 sources)

/-- Lists of sources that are the same in each precedence are the same in each level. -/
theorem Rearranged.filter_level (rearranged : Rearranged sources other) (level : Nat) :
    sources.filter (·.precedence.level = level) = other.filter (·.precedence.level = level) := by
  by_cases named : ∃ precedence : Precedence, precedence.level = level
  · obtain ⟨precedence, rfl⟩ := named
    simpa only [level_inj] using rearranged precedence
  · have nameless : ∀ source : Source, source.precedence.level ≠ level :=
      fun source same => named ⟨source.precedence, same⟩
    simp [nameless]

/-- Only the order within each precedence matters for the order in which sources are read. -/
theorem inOrder_of_rearranged (rearranged : Rearranged sources other) :
    (inOrder sources).map (·.1) = (inOrder other).map (·.1) := by
  have sorted : ∀ sources, ((inOrder sources).map (·.1)).Pairwise fun left right =>
      left.precedence.level ≤ right.precedence.level :=
    fun sources => List.pairwise_map.mpr (sorted_inOrder sources)
  refine eq_of_filter_eq (sorted sources) (sorted other) fun level => ?_
  rw [filter_inOrder, filter_inOrder, rearranged.filter_level]

/-- Sources that are all read are read to the last. -/
theorem untilError_of_read {ordered : List (Source × Nat)} (readable : ∀ placed ∈ ordered, placed.1.IsRead) :
    untilError ordered = ordered := by
  induction ordered with
  | nil => rfl
  | cons placed rest ih =>
    obtain ⟨⟨layer, here⟩, later⟩ := List.forall_mem_cons.mp readable
    rw [untilError, here]
    exact congrArg (placed :: ·) (ih later)

/-- The first source that yields an error is the last one that is read. -/
theorem untilError_of_error {read : List (Source × Nat)} {failing : Source × Nat} {error : ConfigError}
    (unread : List (Source × Nat)) (readable : ∀ placed ∈ read, placed.1.IsRead)
    (fails : failing.1.layer = .error error) :
    untilError (read ++ failing :: unread) = read ++ [failing] := by
  induction read with
  | nil =>
    rw [List.nil_append, untilError, fails]
    rfl
  | cons placed read ih =>
    obtain ⟨⟨layer, here⟩, later⟩ := List.forall_mem_cons.mp readable
    rw [List.cons_append, untilError, here]
    exact congrArg (placed :: ·) (ih later)

/-- The first error among the sources is the result. -/
theorem overlay_of_error (merged : Layer) {read : List Source} {failing : Source} {error : ConfigError}
    (unread : List Source) (readable : ∀ source ∈ read, source.IsRead) (fails : failing.layer = .error error) :
    overlay merged (read ++ failing :: unread) = .error error := by
  induction read generalizing merged with
  | nil => rw [List.nil_append, overlay, fails]
  | cons source read ih =>
    obtain ⟨⟨layer, here⟩, later⟩ := List.forall_mem_cons.mp readable
    rw [List.cons_append, overlay, here]
    exact ih _ later

/-- The last value of a setting is that of the later sources, or else that of the first one. -/
theorem lastSet_cons {α : Type} (setting : Layer → Option α) {source : Source} {layer : Layer}
    (read : source.layer = .ok layer) (rest : List Source) :
    lastSet setting (source :: rest) = (lastSet setting rest).or (setting layer) := by
  unfold lastSet
  rw [List.filterMap_cons, read, Except.toOption, Option.bind_some]
  cases setting layer with
  | none => simp
  | some value =>
    rw [List.getLast?_cons]
    cases (rest.filterMap fun source => source.layer.toOption.bind setting).getLast? <;> rfl

/-- Sources that are all read leave each setting as the last of them has set it, or as it was. -/
theorem overlay_of_read (merged : Layer) (readable : ∀ source ∈ sources, source.IsRead) :
    overlay merged sources = .ok
      ⟨(lastSet (·.pollIntervalMs) sources).or merged.pollIntervalMs,
        (lastSet (·.jitterFraction) sources).or merged.jitterFraction,
        (lastSet (·.fetchTimeoutMs) sources).or merged.fetchTimeoutMs⟩ := by
  induction sources generalizing merged with
  | nil => rfl
  | cons source rest ih =>
    obtain ⟨⟨layer, here⟩, later⟩ := List.forall_mem_cons.mp readable
    rw [overlay, here]
    dsimp only
    rw [ih _ later, lastSet_cons _ here, lastSet_cons _ here, lastSet_cons _ here]
    simp only [Layer.merge, Option.or_assoc]

/-- The settings combined are those of the layer that holds the last of each. -/
theorem toConfig_lastSet (sources : List Source) :
    Layer.toConfig ⟨lastSet (·.pollIntervalMs) sources, lastSet (·.jitterFraction) sources,
      lastSet (·.fetchTimeoutMs) sources⟩ = combined sources := rfl

/-- Sources that are all read stand for the settings combined. -/
theorem finalize_of_read (readable : ∀ source ∈ sources, source.IsRead) :
    (overlay .empty sources).bind Layer.finalize = (combined sources).validated := by
  have layers := overlay_of_read .empty readable
  have settings : overlay .empty sources = .ok
      ⟨lastSet (·.pollIntervalMs) sources, lastSet (·.jitterFraction) sources,
        lastSet (·.fetchTimeoutMs) sources⟩ := by
    rw [layers]
    simp only [Layer.empty, Option.or_none]
  rw [settings, ← toConfig_lastSet, Except.bind, Layer.finalize]

/-- What is read of the sources does not depend on their places. -/
theorem untilError_map_fst {left right : List (Source × Nat)} (same : left.map (·.1) = right.map (·.1)) :
    (untilError left).map (·.1) = (untilError right).map (·.1) := by
  induction left generalizing right with
  | nil =>
    rw [List.map_nil, eq_comm, List.map_eq_nil_iff] at same
    rw [same]
  | cons placed left ih =>
    cases right with
    | nil => simp at same
    | cons placed' right =>
      obtain ⟨source, place⟩ := placed
      obtain ⟨source', place'⟩ := placed'
      obtain ⟨first, rest⟩ : source = source' ∧ left.map (·.1) = right.map (·.1) := List.cons.inj same
      rw [untilError, untilError, ← first]
      cases source.layer with
      | ok layer => exact congrArg (source :: ·) (ih rest)
      | error error => rfl

/-- Every source that is put in order is one of those given. -/
theorem forall_inOrder {property : Source → Prop} (each : ∀ source ∈ sources, property source) :
    ∀ placed ∈ inOrder sources, property placed.1 := by
  intro placed member
  have given := (inStableOrder_inOrder sources).complete.mem_iff.mp member
  exact each placed.1 (List.fst_mem_of_mem_zipIdx given)

end Source

/-- A configuration that is checked and sound has positive times, a fetch ends before the interval is over, and the
spread is a fraction from zero to one. -/
theorem Config.bounds_of_validate {config : Config} (sound : config.validate = .ok ()) :
    Duration.zero < config.fetchTimeout ∧ config.fetchTimeout < config.pollInterval ∧
      config.jitterFraction.isFinite = true ∧ 0.0 ≤ config.jitterFraction ∧ config.jitterFraction ≤ 1.0 := by
  obtain ⟨_, positive, shorter, inRange⟩ := Config.validate_eq_ok_iff.mp sound
  simp only [Config.jitterInRange, Bool.and_eq_true, decide_eq_true_eq] at inRange
  exact ⟨positive, shorter, inRange.1, inRange.2⟩

/-- A layer that is finalized has been found sound. -/
theorem Layer.validate_of_finalize {layer : Layer} {config : Config} (finalized : layer.finalize = .ok config) :
    config.validate = .ok () := by
  rw [finalize, Config.validated] at finalized
  cases checked : layer.toConfig.validate with
  | error error =>
    rw [checked] at finalized
    cases finalized
  | ok _ =>
    rw [checked] at finalized
    obtain rfl := Except.ok.inj finalized
    exact checked

section Loading

variable {sources other : List Source}

/-- Loading stops with the first source that yields an error. -/
theorem loadFromSources_of_error {read unread : List (Source × Nat)} {failing : Source × Nat} {error : ConfigError}
    (ordered : Source.inOrder sources = read ++ failing :: unread) (readable : ∀ placed ∈ read, placed.1.IsRead)
    (fails : failing.1.layer = .error error) :
    Source.placesRead sources = (read ++ [failing]).map (·.2) ∧ loadFromSources sources =
      ⟨.error error, (read ++ [failing]).flatMap fun placed => placed.1.readingEvents⟩ := by
  have untilError := Source.untilError_of_error unread readable fails
  have overlaid := Source.overlay_of_error .empty (unread.map (·.1)) (List.forall_mem_map.mpr readable) fails
  constructor
  · rw [Source.placesRead, ordered, untilError]
  · rw [loadFromSources, ordered, untilError, List.map_append, List.map_cons, overlaid]
    simp only [Except.bind, List.append_nil]
    rfl

/-- A configuration that is loaded is sound. -/
theorem validate_of_loaded {config : Config} (loaded : (loadFromSources sources).result = .ok config) :
    config.validate = .ok () := by
  have finalized : (Source.overlay .empty ((Source.inOrder sources).map (·.1))).bind Layer.finalize = .ok config :=
    loaded
  cases overlaid : Source.overlay .empty ((Source.inOrder sources).map (·.1)) with
  | error error =>
    rw [overlaid] at finalized
    cases finalized
  | ok layer =>
    rw [overlaid, Except.bind] at finalized
    exact Layer.validate_of_finalize finalized

/-- The events of loading are those of the sources that are read. -/
theorem flatMap_untilError (sources : List Source) :
    ((Source.untilError (Source.inOrder sources)).flatMap fun source =>
      .loadingSource source.1.name :: source.1.events) =
        ((Source.untilError (Source.inOrder sources)).map (·.1)).flatMap Source.readingEvents := by
  rw [List.flatMap_map]
  rfl

/-- Sources that are the same in each precedence are loaded alike. -/
theorem loadFromSources_of_rearranged (rearranged : Source.Rearranged sources other) :
    (Source.untilError (Source.inOrder other)).map (·.1) = (Source.untilError (Source.inOrder sources)).map (·.1) ∧
      loadFromSources other = loadFromSources sources := by
  have same := Source.inOrder_of_rearranged rearranged
  have read := Source.untilError_map_fst same
  refine ⟨read.symm, ?_⟩
  unfold loadFromSources
  rw [flatMap_untilError, flatMap_untilError, read, same]

end Loading

/-- What loading a configuration from sources comes to. -/
structure Resolves (sources : List Source) : Prop where
  /-- Sources are read in the order of their precedence, those of one precedence as they are given. -/
  order : Source.InStableOrder sources (Source.inOrder sources)
  /-- The first source in this order that yields an error is the last one that is read, and its error is the
  result. -/
  fails : ∀ read failing unread error, Source.inOrder sources = read ++ failing :: unread →
    (∀ placed ∈ read, placed.1.IsRead) → failing.1.layer = .error error →
    Source.placesRead sources = (read ++ [failing]).map (·.2) ∧ loadFromSources sources =
      ⟨.error error, (read ++ [failing]).flatMap fun placed => placed.1.readingEvents⟩
  /-- If no source yields an error all are read, and the settings combined are the result if they are sound. -/
  combines : (∀ source ∈ sources, source.IsRead) →
    Source.placesRead sources = (Source.inOrder sources).map (·.2) ∧
    (loadFromSources sources).result = (Source.combined ((Source.inOrder sources).map (·.1))).validated
  /-- Every configuration that is loaded has positive times, a fetch ends before the interval is over, and the
  spread is a fraction from zero to one. -/
  sound : ∀ config, (loadFromSources sources).result = .ok config →
    Duration.zero < config.fetchTimeout ∧ config.fetchTimeout < config.pollInterval ∧
      config.jitterFraction.isFinite = true ∧ 0.0 ≤ config.jitterFraction ∧ config.jitterFraction ≤ 1.0
  /-- The order of sources of different precedence does not matter. -/
  rearranged : ∀ other, Source.Rearranged sources other →
    (Source.untilError (Source.inOrder other)).map (·.1) = (Source.untilError (Source.inOrder sources)).map (·.1) ∧
    loadFromSources other = loadFromSources sources

/-- Loading a configuration reads its sources by precedence up to the first error, and without an error each setting
is that of the last source that sets it. -/
theorem resolves_sources (sources : List Source) : Resolves sources where
  order := Source.inStableOrder_inOrder sources
  fails _ _ _ _ ordered readable fails := loadFromSources_of_error ordered readable fails
  combines readable := by
    have readable' := Source.forall_inOrder readable
    constructor
    · rw [Source.placesRead, Source.untilError_of_read readable']
    · exact Source.finalize_of_read (List.forall_mem_map.mpr readable')
  sound _ loaded := Config.bounds_of_validate (validate_of_loaded loaded)
  rearranged _ rearranged := loadFromSources_of_rearranged rearranged

/-- Of two sources of the environment the later one wins over the earlier one and over the file, wherever the file
stands, and a file that cannot be read ends the reading before both. -/
theorem resolves_sources_layered :
    let first : Source := ⟨"first", .environment, .ok ⟨some 60000, some 0.25, none⟩, []⟩
    let second : Source := ⟨"second", .environment, .ok ⟨some 45000, none, none⟩, []⟩
    let file : Source := ⟨"file", .file, .ok ⟨some 15000, some 0.5, some 5000⟩, []⟩
    let missing : Source := ⟨"missing", .file, .error (.fileRead "flags.toml"), []⟩
    (loadFromSources [first, file, second]).result = .ok ⟨.ofMillis 45000, 0.25, .ofMillis 5000⟩ ∧
      (loadFromSources [first, second, file]).result = .ok ⟨.ofMillis 45000, 0.25, .ofMillis 5000⟩ ∧
      Source.placesRead [first, missing, .defaults, second] = [2, 1] ∧
      (loadFromSources [first, missing, .defaults, second]).result = .error (.fileRead "flags.toml") := by
  intro first second file missing
  have result : (loadFromSources [first, second, file]).result = .ok ⟨.ofMillis 45000, 0.25, .ofMillis 5000⟩ := by
    have readable : ∀ source ∈ [first, second, file], source.IsRead := by
      simp only [List.forall_mem_cons, first, second, file]
      exact ⟨⟨_, rfl⟩, ⟨_, rfl⟩, ⟨_, rfl⟩, List.forall_mem_nil _⟩
    have ordered : Source.inOrder [first, second, file] = [(file, 2), (first, 0), (second, 1)] := by
      simp [Source.inOrder, List.mergeSort, List.MergeSort.Internal.splitInTwo, Precedence.level, first, second, file]
    rw [((resolves_sources _).combines readable).2, ordered]
    decide +kernel
  have moved := ((resolves_sources [first, second, file]).rearranged [first, file, second] fun precedence => by
    cases precedence <;> rfl).2
  have ordered : Source.inOrder [first, missing, .defaults, second] =
      [(.defaults, 2)] ++ (missing, 1) :: [(first, 0), (second, 3)] := by
    simp [Source.inOrder, List.mergeSort, List.MergeSort.Internal.splitInTwo, Precedence.level, Source.defaults, first,
      second, missing]
  have failed := (resolves_sources _).fails _ _ _ (.fileRead "flags.toml") ordered
    (List.forall_mem_singleton.mpr ⟨_, rfl⟩) rfl
  refine ⟨?_, result, failed.1, ?_⟩
  · rw [moved, result]
  · rw [failed.2]

end LiveFlags
