import LiveFlags.Proofs.Http.Cache
import LiveFlags.Proofs.Json.Typed
import LiveFlags.Proofs.Text.Utf8

/-!
# Payloads written and read back

A flag is decoded as the first of its three kinds that takes the JSON value (`FlagValue.decode?`), which is
what the value stands for (`FlagValue.ofJson`). A set that is written, its flags in whatever order, is read
back with every flag as what its plain JSON stands for (`FlagSet.plain`): only a JSON flag around a truth
value or a text comes back as another flag. The document of a server is read alike (`codec_laws`).
-/
namespace LiveFlags

namespace FlagValue

/-- The flag that the plain JSON of a flag stands for. -/
def plain (flag : FlagValue) : FlagValue := ofJson flag.toJson

/-- A flag is what its plain JSON stands for unless it is a JSON flag around a truth value or a text. -/
theorem plain_eq_iff (flag : FlagValue) :
    flag.plain = flag ↔ (∀ on, flag ≠ .json (.bool on)) ∧ ∀ text, flag ≠ .json (.string text) := by
  cases flag with
  | boolean on => exact iff_of_true rfl ⟨fun _ => nofun, fun _ => nofun⟩
  | text value => exact iff_of_true rfl ⟨fun _ => nofun, fun _ => nofun⟩
  | json value =>
    cases value with
    | bool on => exact iff_of_false nofun fun other => other.1 on rfl
    | string text => exact iff_of_false nofun fun other => other.2 text rfl
    | null | number | array | object => exact iff_of_true rfl ⟨fun _ => nofun, fun _ => nofun⟩

/-- What plain JSON stands for is plain. -/
theorem plain_plain (flag : FlagValue) : flag.plain.plain = flag.plain := by
  rw [plain, plain, toJson_ofJson]

/-- A flag is refused for its value exactly if what its plain JSON stands for is. -/
theorem validateFlag_plain (key : String) (flag : FlagValue) : validateFlag key flag.plain = validateFlag key flag := by
  unfold validateFlag
  cases validateKey key with
  | error reason => rfl
  | ok _ =>
    cases flag with
    | boolean on => rfl
    | text value => rfl
    | json value => cases value <;> rfl

end FlagValue

namespace FlagSet

/-- The set with every flag as what its plain JSON stands for. -/
def plain (set : FlagSet) : FlagSet := ⟨set.flags.map FlagValue.plain, set.version⟩

/-- A set as JSON with its flags in the order given. -/
def jsonOf (entries : List (String × FlagValue)) (version : Option String) : Json.Value :=
  .object (("flags", .object (entries.map fun entry => (entry.1, entry.2.toJson))) :: match version with
    | none => []
    | some version => [("version", .string version)])

/-- The text is what the set is written as, its flags in some order. -/
def IsWritten (set : FlagSet) (text : String) : Prop :=
  ∃ entries, entries.Perm set.flags.entries ∧ text = (jsonOf entries set.version).print

/-- The values of the set can be read back from inside the set. -/
def Legible (set : FlagSet) : Prop :=
  ∀ entry ∈ set.flags.entries, entry.2.toJson.Legible (Json.maxDepth - 2)

variable {set : FlagSet}

/-- The plain JSON of a set is one of the texts that it is written as. -/
theorem isWritten_toJson (set : FlagSet) : set.IsWritten set.toJson.print :=
  ⟨set.flags.entries, List.Perm.refl _, rfl⟩

/-- The value of a flag is read as the flag that it stands for. -/
theorem flagReader_eq (outer : Nat) :
    flagReader outer = (do return FlagValue.ofJson (← Json.value outer)) := by
  unfold flagReader
  simp only [FlagValue.decode?_eq]

/-- A value is taken for the flag that it stands for. -/
theorem takes_ofJson {outer : Nat} {value : Json.Value} (legible : value.Legible (Json.maxDepth - outer)) :
    Json.Reader.Takes (flagReader outer) value.print (FlagValue.ofJson value) := by
  rw [flagReader_eq]
  exact Json.Reader.Takes.map (Json.takes_value legible) FlagValue.ofJson

/-- The flags of a set, in whatever order, are taken for what their plain JSON stands for. -/
theorem takes_flags {entries : List (String × FlagValue)} (same : entries.Perm set.flags.entries)
    (legible : set.Legible) :
    Json.Reader.Takes (Json.table (flagReader 2))
      (Json.Value.object (entries.map fun entry => (entry.1, entry.2.toJson))).print
      (set.flags.map FlagValue.plain) := by
  have each : ∀ member ∈ entries.map fun entry => (entry.1, entry.2.toJson),
      Json.Reader.Takes (flagReader 2) member.2.print (FlagValue.ofJson member.2) := by
    intro member listed
    obtain ⟨entry, here, rfl⟩ := List.mem_map.mp listed
    exact takes_ofJson (legible entry (same.mem_iff.mp here))
  have takes := Json.takes_table each
  rw [List.map_map] at takes
  have whole : Table.ofList (entries.map fun entry => (entry.1, entry.2.plain)) = set.flags.map FlagValue.plain :=
    Table.ofList_of_perm (same.map _)
  rw [← whole]
  exact takes

/-- The flags of a set are read first. -/
theorem takes_flagsField (title : String) {text : String} {flags : Flags}
    (takes : Json.Reader.Takes (Json.table (flagReader 2)) text flags) {fuel : Nat} {rest : Json.Input}
    (delimited : Json.Delimited rest) :
    (record title).members (fuel + 1) (none, none)
        (Json.Input.ofText (Json.printString "flags" ++ ":" ++ text) ++ rest) =
      match Json.skipSpace rest with
      | some ',' :: rest => (record title).members fuel (some flags, none) rest
      | some '\x7d' :: rest => .ok ((some flags, none), rest)
      | _ => .error .malformed :=
  Json.Record.members_member rfl rfl (Json.Reader.Takes.map takes fun flags => (some flags, none)) delimited

/-- The version of a set is read after its flags. -/
theorem takes_versionField (title version : String) (flags : Option Flags) {fuel : Nat} {rest : Json.Input}
    (delimited : Json.Delimited rest) :
    (record title).members (fuel + 1) (flags, none)
        (Json.Input.ofText (Json.printString "version" ++ ":" ++ Json.printString version) ++ rest) =
      match Json.skipSpace rest with
      | some ',' :: rest => (record title).members fuel (flags, some (some version)) rest
      | some '\x7d' :: rest => .ok ((flags, some (some version)), rest)
      | _ => .error .malformed :=
  Json.Record.members_member rfl rfl
    (Json.Reader.Takes.map (Json.takes_optional_string version) fun read => (flags, some read)) delimited

/-- A set is taken for what has been read of its record. -/
theorem takes_of_record (title : String) {text : String} {read : Partial}
    (takes : Json.Reader.Takes (record title).reader text read) :
    Json.Reader.Takes (reader title) text ⟨read.1.getD .empty, read.2.getD none⟩ :=
  Json.Reader.Takes.map takes fun read => FlagSet.mk (read.1.getD .empty) (read.2.getD none)

/-- A set, its flags in whatever order, is taken for what its plain JSON stands for. -/
theorem takes_set (title : String) {entries : List (String × FlagValue)} (same : entries.Perm set.flags.entries)
    (legible : set.Legible) : Json.Reader.Takes (reader title) (jsonOf entries set.version).print set.plain := by
  have flags := takes_flags same legible
  unfold plain
  cases set.version with
  | none =>
    have read : Json.Reader.Takes (record title).reader (jsonOf entries none).print
        (some (set.flags.map FlagValue.plain), none) := by
      refine Json.Record.takes_reader (fun fuel rest enough => ?_) rfl
      cases fuel with
      | zero => exact absurd enough (Nat.not_lt_zero _)
      | succ fuel => exact takes_flagsField title flags (Json.delimited_cons (.inr (.inr rfl)) rest)
    exact takes_of_record title read
  | some version =>
    have read : Json.Reader.Takes (record title).reader (jsonOf entries (some version)).print
        (some (set.flags.map FlagValue.plain), some (some version)) := by
      refine Json.Record.takes_reader (fun fuel rest enough => ?_) rfl
      obtain ⟨fuel, rfl⟩ : ∃ less, fuel = less + 2 := Nat.exists_eq_add_of_le' enough
      rw [Json.Input.ofText_members, List.append_assoc, List.cons_append]
      refine (takes_flagsField title flags (Json.delimited_cons (.inl rfl) _)).trans ?_
      rw [Json.skipSpace_of_solid rfl]
      exact takes_versionField title version _ (Json.delimited_cons (.inr (.inr rfl)) rest)
    exact takes_of_record title read

/-- A set is read back from every text that it is written as. -/
theorem parse_of_isWritten (legible : set.Legible) {text : String} (written : set.IsWritten text) :
    parse text = .ok set.plain := by
  obtain ⟨entries, same, rfl⟩ := written
  exact (takes_set "struct FlagSet" same legible).run

/-- What a legible set is read back as is legible. -/
theorem Legible.plain (legible : set.Legible) : set.plain.Legible := by
  intro entry listed
  obtain ⟨original, here, rfl⟩ := List.mem_map.mp listed
  have same : original.2.plain.toJson = original.2.toJson := FlagValue.toJson_ofJson _
  rw [same]
  exact legible original here

/-- What a set is read back as is read back as itself. -/
theorem plain_plain (set : FlagSet) : set.plain.plain = set.plain := by
  have twice : FlagValue.plain ∘ FlagValue.plain = FlagValue.plain := funext FlagValue.plain_plain
  unfold plain
  rw [Table.map_map, twice]

/-- A set is read back as itself exactly if each of its flags is. -/
theorem plain_eq_iff (set : FlagSet) : set.plain = set ↔ ∀ entry ∈ set.flags.entries, entry.2.plain = entry.2 := by
  have entries : set.plain = set ↔
      set.flags.entries.map (fun entry => (entry.1, entry.2.plain)) = set.flags.entries.map id := by
    rw [List.map_id]
    constructor
    · intro same
      exact congrArg (fun set => set.flags.entries) same
    · intro same
      have flags : set.flags.map FlagValue.plain = set.flags := Table.ext same
      rw [plain, flags]
  rw [entries, List.map_inj_left]
  exact forall₂_congr fun entry _ => Prod.ext_iff.trans (and_iff_right rfl)

/-- A set is refused for its shape exactly if what it is read back as is. -/
theorem validate_plain (set : FlagSet) : set.plain.validate = set.validate := by
  have entries : ∀ entries : List (String × FlagValue),
      validateEntries (entries.map fun entry => (entry.1, entry.2.plain)) = validateEntries entries := by
    intro entries
    induction entries with
    | nil => rfl
    | cons entry entries ih =>
      rw [List.map_cons, validateEntries, validateEntries, FlagValue.validateFlag_plain, ih]
  exact entries set.flags.entries

/-- A set is what has been read of its record, if there is nothing behind it. -/
theorem toOption_run (title : String) (input : Json.Input) :
    (Json.Reader.run (reader title) input).toOption =
      ((record title).reader input).toOption.bind fun read =>
        if (Json.skipSpace read.2).isEmpty then some ⟨read.1.1.getD .empty, read.1.2.getD none⟩ else none := by
  have whole : Json.Reader.run (reader title) input = ((record title).reader input >>= fun read =>
      if (Json.skipSpace read.2).isEmpty then .ok ⟨read.1.1.getD .empty, read.1.2.getD none⟩
      else .error .malformed) := by
    show ((((record title).reader input).bind _).bind _) = ((record title).reader input).bind _
    cases (record title).reader input <;> rfl
  rw [whole, Json.toOption_bind]
  refine congrArg _ (funext fun read => ?_)
  split <;> rfl

end FlagSet

namespace Http

/-- A text is read as a document exactly if it is read as a set, and as the same set. -/
theorem readDocument_eq_ok_iff (text : String) (set : FlagSet) :
    readDocument (Text.Utf8.encode text) = .ok set ↔ FlagSet.parse text = .ok set := by
  have input : Json.Input.ofBytes (Text.Utf8.encode text) = Json.Input.ofText text := Text.Utf8.decode_encode text
  have fields : (FlagSet.record "struct FlagsDocument").fields = (FlagSet.record "struct FlagSet").fields := rfl
  have record := Json.Record.toOption_reader fields rfl (Json.Input.ofText text)
  rw [← Json.toOption_eq_some, ← Json.toOption_eq_some, readDocument, input, FlagSet.parse, FlagSet.toOption_run,
    FlagSet.toOption_run, record]

/-- A successful answer that carries a set as text brings the flags of the set to the client, under its version
or else that of the entity tag. -/
theorem sourceResult_of_parse {pending : Pending} {answer : Answer} {text : String} {set : FlagSet}
    (parsed : FlagSet.parse text = .ok set) (success : answer.isSuccess = true)
    (came : answer.body = .whole (Text.Utf8.encode text)) :
    (pending.handle (.ok answer)).sourceResult =
      .ok ⟨set.flags, set.version.or (answer.entityTag?.map EntityTag.unquote)⟩ := by
  have read := (readDocument_eq_ok_iff text set).mpr parsed
  rw [handle_of_success success, Fetched.sourceResult, (accept_of_read came read).1]
  rfl

end Http

/-- What becomes of a plain value as a flag. -/
structure FlagValue.Faithful (value : Json.Value) : Prop where
  /-- The first kind of flag that takes the value makes of it the flag that it stands for. -/
  decoded : decode? value = some (ofJson value)
  /-- The plain JSON of this flag is the value. -/
  plain : (ofJson value).toJson = value
  /-- The text of this flag is that of the value. -/
  serialized : (ofJson value).serialize = value.print
  /-- From its text the flag is read back, and so is the value. -/
  read : value.Legible Json.maxDepth →
    (FlagSet.flagReader 0).run (Json.Input.ofText (ofJson value).serialize) = .ok (ofJson value) ∧
      Json.parse (ofJson value).serialize = .ok value

/-- What becomes of a set that is written and read back. -/
structure FlagSet.RoundTrips (set : FlagSet) : Prop where
  /-- The text of its plain JSON is one that it is written as. -/
  writes : set.IsWritten set.toJson.print
  /-- However its flags are ordered, it is read as the set with each flag replaced by what its plain JSON stands
  for, under the same version. -/
  reads : ∀ text, set.IsWritten text →
    parse text = .ok ⟨set.flags.map (FlagValue.ofJson ∘ FlagValue.toJson), set.version⟩
  /-- This is the set itself exactly if none of its flags is a JSON flag around a truth value or a text. -/
  exact : set.plain = set ↔ ∀ entry ∈ set.flags.entries,
    (∀ on, entry.2 ≠ .json (.bool on)) ∧ ∀ text, entry.2 ≠ .json (.string text)
  /-- What has been read is written and read again without any further change. -/
  settles : ∀ text, set.plain.IsWritten text → parse text = .ok set.plain
  /-- What has been read is valid exactly if the set is. -/
  valid : set.plain.validate = .ok () ↔ set.validate = .ok ()

/-- What becomes of a text as the document of a server. -/
structure Http.ReadsAlike (text : String) : Prop where
  /-- It is read as the set that it is read as elsewhere, if it is read at all. -/
  accepted : ∀ set, readDocument (Text.Utf8.encode text) = .ok set ↔ FlagSet.parse text = .ok set
  /-- The client gets the flags and the version of this set, or without a version that of the entity tag. -/
  delivered : ∀ set (pending : Pending) (answer : Answer), FlagSet.parse text = .ok set → answer.isSuccess = true →
    answer.body = .whole (Text.Utf8.encode text) →
    (pending.handle (.ok answer)).sourceResult =
      .ok ⟨set.flags, set.version.or (answer.entityTag?.map EntityTag.unquote)⟩

/-- Plain values are kept by flags. -/
theorem FlagValue.faithful (value : Json.Value) : Faithful value := by
  have serialized : (ofJson value).serialize = value.print := by rw [serialize_eq, toJson_ofJson]
  refine ⟨decode?_eq value, toJson_ofJson value, serialized, fun legible => ?_⟩
  have flag : Json.Reader.Takes (FlagSet.flagReader 0) value.print (ofJson value) := FlagSet.takes_ofJson legible
  have taken : Json.Reader.Takes (Json.value 0) value.print value := Json.takes_value legible
  rw [serialized]
  exact ⟨flag.run, taken.run⟩

/-- Legible sets are read back. -/
theorem FlagSet.Legible.roundTrips {set : FlagSet} (legible : set.Legible) : set.RoundTrips := by
  refine ⟨isWritten_toJson set, fun text => parse_of_isWritten legible, ?_, fun text written => ?_, ?_⟩
  · rw [plain_eq_iff]
    exact forall₂_congr fun entry _ => FlagValue.plain_eq_iff entry.2
  · have again := parse_of_isWritten legible.plain written
    rwa [plain_plain] at again
  · rw [validate_plain]

/-- Plain values, sets and documents are read as what they have been written as. -/
theorem codec_laws :
    (∀ value, FlagValue.Faithful value) ∧ (∀ set : FlagSet, set.Legible → set.RoundTrips) ∧
      ∀ text, Http.ReadsAlike text := by
  refine ⟨FlagValue.faithful, fun set legible => legible.roundTrips, fun text => ?_⟩
  exact ⟨Http.readDocument_eq_ok_iff text, fun set pending answer => Http.sourceResult_of_parse⟩

/-- A set without a version: a JSON flag around a truth value, `null`, a whole number inside an object, and one
half inside an array. -/
def wrappedFlags : FlagSet where
  flags := ⟨[("beta", .json (.bool true)), ("gone", .json .null),
    ("limits", .json (.object [("max", .number (.integer 10 (by decide)))])),
    ("ratios", .json (.array [.number (.float 0.5)]))], by decide⟩
  version := none

/-- These flags as a text, not in the order of their keys. -/
def wrappedText : String :=
  "\x7b\"flags\":\x7b\"gone\":null,\"beta\":true,\"limits\":\x7b\"max\":10\x7d,\"ratios\":[0.5]\x7d\x7d"

/-- An answer that carries these flags under a weak tag. -/
def wrappedAnswer : Http.Answer :=
  ⟨200, [("ETag", Text.Utf8.encode "W/\"v7\"")], .whole (Text.Utf8.encode wrappedText)⟩

/-- These flags do not come back as they are, but with the first as a plain one; the tag gives the version. -/
theorem codec_laws_wrappedFlags :
    wrappedFlags.Legible ∧ wrappedFlags.IsWritten wrappedText ∧ wrappedFlags.plain ≠ wrappedFlags ∧
      ∀ pending : Http.Pending, (pending.handle (.ok wrappedAnswer)).sourceResult =
        .ok ((wrappedFlags.withFlag "beta" (.boolean true)).withVersion "v7") := by
  obtain ⟨_, sets, texts⟩ := codec_laws
  have legible : wrappedFlags.Legible := by
    have limits : (Json.Value.object [("max", .number (.integer 10 (by decide)))]).Legible (Json.maxDepth - 2) := by
      refine .object 124 _ (by decide) fun member here => ?_
      rw [List.mem_singleton.mp here]
      exact .number _ _ (Json.legible_integer 10 _)
    have ratios : (Json.Value.array [.number (.float 0.5)]).Legible (Json.maxDepth - 2) := by
      refine .array 124 _ fun element here => ?_
      rw [List.mem_singleton.mp here]
      exact .number _ _ Json.legible_half
    simp only [FlagSet.Legible, wrappedFlags, List.forall_mem_cons, FlagValue.toJson]
    exact ⟨.bool _ true, .null _, limits, ratios, List.forall_mem_nil _⟩
  have trips := sets wrappedFlags legible
  have written : wrappedFlags.IsWritten wrappedText := by
    refine ⟨("gone", .json .null) :: ("beta", .json (.bool true)) :: wrappedFlags.flags.entries.drop 2,
      .swap _ _ _, ?_⟩
    decide +kernel
  have tag : wrappedAnswer.entityTag?.map Http.EntityTag.unquote = some "v7" := by decide +kernel
  refine ⟨legible, written, fun same => ?_, fun pending => ?_⟩
  · exact (trips.exact.mp same ("beta", .json (.bool true)) List.mem_cons_self).1 true rfl
  · have came := (texts wrappedText).delivered _ pending wrappedAnswer (trips.reads wrappedText written) rfl rfl
    rw [tag] at came
    exact came

end LiveFlags
