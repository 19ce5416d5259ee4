import LiveFlags.Proofs.Flag.Codec
import LiveFlags.Proofs.Http.Revalidation
import LiveFlags.Proofs.Machine

/-!
# A fetcher that callers share

Any number of callers fetch through one fetcher from one server, and their fetches overlap as they like: a
fetch captures what is kept and sends its request, the server answers with the document that it has at this
moment, and the answer is handled at some time after that, before or after the answers that were given
earlier or later. So what is kept when an answer is handled may be older or newer than what the fetch has
captured. If every document comes with a tag of its own that is text, what a fetch has captured is what its
request names (`Flight.Sound`), and every fetch brings the document that the server had when it answered
that fetch (`faithful_flights`). A document whose text is that of a set stands for the set, whatever reads it
(`Document.Writes`).
-/
namespace LiveFlags.Http

/-- Where one fetch among others stands. -/
inductive Stage where
  /-- Its request has been sent. -/
  | sent
  /-- Its exchange has ended, and the server had this document then. -/
  | answered (origin : Document) (outcome : Outcome)
  /-- It has come to something after such an exchange. -/
  | handled (origin : Document) (outcome : Outcome) (fetched : Fetched)
  /-- It has been dropped. -/
  | dropped

/-- What a fetch has come to, after which exchange with a server that had which document. -/
def Stage.ended? : Stage → Option (Document × Outcome × Fetched)
  | .handled origin outcome fetched => some (origin, outcome, fetched)
  | .sent | .answered _ _ | .dropped => none

/-- A fetch that has come to something has handled the end of its exchange. -/
theorem Stage.handled_of_ended? {stage : Stage} {origin : Document} {outcome : Outcome} {fetched : Fetched}
    (ended : stage.ended? = some (origin, outcome, fetched)) : stage = .handled origin outcome fetched := by
  cases stage with
  | handled => simpa [ended?] using ended
  | sent | answered | dropped => contradiction

/-- One fetch among others. -/
structure Flight where
  /-- What it has captured and sent. -/
  pending : Pending
  /-- Where it stands. -/
  stage : Stage

/-- A fetcher that callers share, the server, and all fetches in the order in which they have begun. -/
structure Sharing where
  /-- The fetcher. -/
  fetcher : Fetcher
  /-- The document that the server has. -/
  document : Document
  /-- The fetches. -/
  flights : List Flight

/-- Something that happens to a fetcher that callers share. -/
inductive SharingAction where
  /-- A caller begins a fetch. -/
  | begin (context : FetchContext)
  /-- The server changes its document. -/
  | change (document : Document)
  /-- The exchange of a fetch ends with what the server does, or in the words of the transport. -/
  | answer (flight : Nat) (words : TransportWords) (reaction : Reaction)
  /-- A fetch handles the end of its exchange. -/
  | handle (flight : Nat)
  /-- A caller drops its fetch. -/
  | drop (flight : Nat)

namespace Sharing

/-- A fetcher that has kept nothing, and no fetches. -/
def fresh (endpoint : Url) (apiKey : String) (requestTimeout : Duration) (document : Document) : Sharing :=
  ⟨⟨endpoint, apiKey, requestTimeout, none⟩, document, []⟩

/-- One fetch has come to another stage. -/
def move (sharing : Sharing) (place : Nat) (pending : Pending) (stage : Stage) : Sharing :=
  { sharing with flights := sharing.flights.set place ⟨pending, stage⟩ }

/-- The exchange of a fetch ends, if the server would do this with its request. -/
def answer? (sharing : Sharing) (place : Nat) (words : TransportWords) (reaction : Reaction) : Option Sharing :=
  match sharing.flights[place]? with
  | some ⟨pending, .sent⟩ =>
    let outcome := Route.passable.exchange words pending.request reaction
    if sharing.document.Reacts pending.request outcome then
      some (sharing.move place pending (.answered sharing.document outcome))
    else none
  | _ => none

/-- A fetch handles the end of its exchange. -/
def handle? (sharing : Sharing) (place : Nat) : Option Sharing :=
  match sharing.flights[place]? with
  | some ⟨pending, .answered origin outcome⟩ =>
    let (fetched, fetcher) := sharing.fetcher.conclude pending outcome
    some ({ sharing with fetcher := fetcher }.move place pending (.handled origin outcome fetched))
  | _ => none

/-- A fetch that has not come to anything is dropped. -/
def drop? (sharing : Sharing) (place : Nat) : Option Sharing :=
  match sharing.flights[place]? with
  | some ⟨pending, .sent⟩ => some (sharing.move place pending .dropped)
  | some ⟨pending, .answered _ _⟩ => some (sharing.move place pending .dropped)
  | _ => none

/-- What follows an action, if it can happen. -/
def step (sharing : Sharing) : SharingAction → Option Sharing
  | .begin context =>
    some { sharing with flights := sharing.flights ++ [⟨sharing.fetcher.capture context, .sent⟩] }
  | .change document => some { sharing with document := document }
  | .answer place words reaction => sharing.answer? place words reaction
  | .handle place => sharing.handle? place
  | .drop place => sharing.drop? place

/-- What follows a history, if all of it can happen in this order. -/
def run (sharing : Sharing) (history : List SharingAction) : Option Sharing :=
  Machine.run step sharing history

end Sharing

/-- The flags and the version that the document stands for, if it can be read: without a version of its own
it has that of its tag. -/
def Document.brings? (document : Document) : Option FlagSet :=
  document.set?.map fun set => versioned set (document.entityTag.bind headerText?)

/-- Every document comes with a tag that is text. -/
def Tagged (documents : Document → Prop) : Prop :=
  ∀ document, documents document → ∃ tag text, document.entityTag = some tag ∧ headerText? tag = some text

/-- The text of the document is that of the set: its flags stand in it in some order, each as plain JSON that stands
for this flag only, and each of its numbers can be read back from its own text. -/
structure Document.Writes (document : Document) (set : FlagSet) : Prop where
  /-- The document is a text that the set is written as. -/
  text : ∃ text, document.body = Text.Utf8.encode text ∧ set.IsWritten text
  /-- No flag is a truth value or a text in the guise of JSON. -/
  plain : ∀ entry ∈ set.flags.entries,
    (∀ on, entry.2 ≠ .json (.bool on)) ∧ ∀ text, entry.2 ≠ .json (.string text)
  /-- The values of the flags can be read back. -/
  legible : set.Legible

/-- What a fetch has come to is the document that the server had at the end of its exchange. -/
structure Faithful (origin : Document) (outcome : Outcome) (fetched : Fetched) : Prop where
  /-- What is brought is the document. -/
  brings : ∀ set, fetched.result = .ok set → origin.brings? = some set
  /-- If the document is the text of a set, what is brought are the flags of this set, under its version or else what
  the tag says. -/
  written : ∀ set brought, origin.Writes set → fetched.result = .ok brought →
    brought.flags = set.flags ∧ VersionOf set.version (origin.entityTag.bind headerText?) brought.version
  /-- A successful answer that has come as a whole brings something then. -/
  readable : ∀ answer set, outcome = .ok answer → answer.isSuccess = true → answer.body = .whole origin.body →
    origin.Writes set → ∃ brought, fetched.result = .ok brought
  /-- "Not modified" brings something. -/
  notModified : ∀ answer, outcome = .ok answer → answer.status = 304 → ∃ set, fetched.result = .ok set
  /-- A successful answer that has come as a whole brings the document, if it can be read. -/
  whole : ∀ answer set, outcome = .ok answer → answer.isSuccess = true → answer.body = .whole origin.body →
    origin.brings? = some set → fetched.result = .ok set

variable {documents : Document → Prop} {origin : Document} {pending : Pending} {outcome : Outcome}

/-- What is kept stands for the document that it has come with. -/
theorem Document.Served.brings {document : Document} {cached : Cached} (served : document.Served cached) :
    document.brings? = some cached.set := by
  obtain ⟨set, read, tag, kept⟩ := served
  rw [Document.brings?, read, Option.map_some, ← tag, kept]

/-- A document that is the text of a set brings the set. -/
theorem Document.Writes.brings {document : Document} {set : FlagSet} (writes : document.Writes set) :
    document.brings? = some (versioned set (document.entityTag.bind headerText?)) := by
  obtain ⟨text, body, written⟩ := writes.text
  have same : set.plain = set := writes.legible.roundTrips.exact.mpr writes.plain
  have parsed := FlagSet.parse_of_isWritten writes.legible written
  rw [same] at parsed
  have read : document.set? = some set := by
    rw [Document.set?, body, (readDocument_eq_ok_iff text set).mpr parsed]
    rfl
  rw [Document.brings?, read, Option.map_some]

/-- What has come to the document has come to the set that the document is the text of. -/
theorem faithful_of_brings {fetched : Fetched}
    (brings : ∀ set, fetched.result = .ok set → origin.brings? = some set)
    (notModified : ∀ answer, outcome = .ok answer → answer.status = 304 → ∃ set, fetched.result = .ok set)
    (whole : ∀ answer set, outcome = .ok answer → answer.isSuccess = true → answer.body = .whole origin.body →
      origin.brings? = some set → fetched.result = .ok set) : Faithful origin outcome fetched where
  brings := brings
  written set brought writes got := by
    have same := (brings brought got).symm.trans writes.brings
    obtain rfl := Option.some.inj same
    exact ⟨rfl, versionOf_iff.mpr rfl⟩
  readable answer set ended success came writes := ⟨_, whole answer _ ended success came writes.brings⟩
  notModified := notModified
  whole := whole

/-- What is kept of a tagged document has kept the tag. -/
theorem exists_entityTag_of_served {document : Document} {cached : Cached} (tagged : Tagged documents)
    (known : documents document) (served : document.Served cached) :
    ∃ text, cached.entityTag = some text := by
  obtain ⟨tag, text, came, reads⟩ := tagged document known
  obtain ⟨_, _, kept, _⟩ := served
  refine ⟨text, ?_⟩
  rw [kept, came, Option.bind_some, reads]

/-- The request names what has been captured: its tag, or else a version. -/
def Pending.Names (pending : Pending) : Prop :=
  ∃ version, pending.request.ifNoneMatch =
    (pending.captured.bind (·.validator version)).map Text.Utf8.encode

/-- A fetch that is told "not modified" has captured the document that the server has. -/
theorem served_of_notModified {answer : Answer} (tagged : Tagged documents)
    (distinct : Document.Distinct documents) (captured : Kept documents pending.captured)
    (names : pending.Names) (known : documents origin) (answers : origin.Answers pending.request answer)
    (notModified : answer.status = 304) :
    ∃ cached, pending.captured = some cached ∧ origin.Served cached := by
  obtain ⟨version, asked⟩ := names
  obtain ⟨validator, named, same⟩ := Document.validator_of_notModified answers notModified
  rw [named] at asked
  obtain ⟨text, sent, rfl⟩ := Option.map_eq_some_iff.mp asked.symm
  obtain ⟨cached, found, named⟩ := Option.bind_eq_some_iff.mp sent
  obtain ⟨document, known', served⟩ := captured cached found
  obtain ⟨tag, kept⟩ := exists_entityTag_of_served tagged known' served
  -- the tag comes first, so the version that the caller has in use does not matter
  rw [Cached.validator, kept, Option.some_or] at named
  obtain rfl := Option.some.inj named
  rw [served.eq_of_tag distinct known' known kept same]
  exact ⟨cached, found, served⟩

/-- An answer with the document that can be read brings the document. -/
theorem handle_of_whole {answer : Answer} {set : FlagSet} (success : answer.isSuccess = true)
    (tag : answer.header? "ETag" = origin.entityTag) (came : answer.body = .whole origin.body)
    (readable : origin.brings? = some set) : (pending.handle (.ok answer)).result = .ok set := by
  obtain ⟨document, read, rfl⟩ := Option.map_eq_some_iff.mp readable
  have read : readDocument origin.body = .ok document := Json.toOption_eq_some.mp read
  rw [handle_of_success success, (accept_of_read came read).1, Answer.entityTag?, tag]

/-- What a fetch makes of the end of its exchange is the document that the server had then. -/
theorem faithful_of_reacts (tagged : Tagged documents) (distinct : Document.Distinct documents)
    (captured : Kept documents pending.captured) (names : pending.Names) (known : documents origin)
    (reacts : origin.Reacts pending.request outcome) : Faithful origin outcome (pending.handle outcome) := by
  cases outcome with
  | error fault => exact faithful_of_brings (fun _ brought => by contradiction) (by simp) (by simp)
  | ok answer =>
    have answers : origin.Answers pending.request answer := reacts
    by_cases notModified : answer.status = 304
    · obtain ⟨cached, found, served⟩ :=
        served_of_notModified tagged distinct captured names known answers notModified
      have result : (pending.handle (.ok answer)).result = .ok cached.set := by
        rw [Document.handle_of_notModified pending notModified, Pending.reuse, found]
      refine faithful_of_brings (fun set brought => ?_) (fun _ _ _ => ⟨cached.set, result⟩) ?_
      · rw [result] at brought
        rw [served.brings, Except.ok.inj brought]
      · rintro _ _ ⟨⟩ success
        rw [isSuccess_of_status (.inl notModified)] at success
        contradiction
    · refine faithful_of_brings (fun set brought => ?_) ?_ ?_
      · rcases Document.handle_of_modified answers notModified with
          ⟨error, refused⟩ | ⟨cached, served, got, _⟩
        · rw [refused] at brought
          contradiction
        · rw [got] at brought
          rw [served.brings, Except.ok.inj brought]
      · rintro _ ⟨⟩ status
        exact absurd status notModified
      · rintro _ set ⟨⟩ success came readable
        unfold Document.Answers at answers
        split at answers
        · exact absurd answers notModified
        · exact handle_of_whole success answers.2.1 came readable

/-- What holds of a fetch at its stage. -/
def Stage.Sound (documents : Document → Prop) (pending : Pending) : Stage → Prop
  | .sent | .dropped => True
  | .answered origin outcome => documents origin ∧ origin.Reacts pending.request outcome
  | .handled origin outcome fetched => Faithful origin outcome fetched

/-- A fetch among others has captured what was served and names it, and what it comes to is faithful. -/
structure Flight.Sound (documents : Document → Prop) (flight : Flight) : Prop where
  /-- What it has captured has been served. -/
  captured : Kept documents flight.pending.captured
  /-- Its request names what it has captured. -/
  names : flight.pending.Names
  /-- Its stage is sound. -/
  stage : flight.stage.Sound documents flight.pending

namespace Sharing

/-- What holds of a fetcher that callers share. -/
structure Sound (documents : Document → Prop) (sharing : Sharing) : Prop where
  /-- The server has one of the documents. -/
  known : documents sharing.document
  /-- What is kept has been served. -/
  kept : Kept documents sharing.fetcher.cached
  /-- Every fetch is sound. -/
  flights : ∀ flight ∈ sharing.flights, flight.Sound documents

variable {sharing next : Sharing} {action : SharingAction} {history : List SharingAction}

/-- What an action that can happen does. -/
inductive Performed (sharing : Sharing) : SharingAction → Sharing → Prop where
  /-- A fetch begins. -/
  | begins (context : FetchContext) : Performed sharing (.begin context)
      { sharing with flights := sharing.flights ++ [⟨sharing.fetcher.capture context, .sent⟩] }
  /-- The document changes. -/
  | changes (document : Document) : Performed sharing (.change document) { sharing with document := document }
  /-- An exchange ends. -/
  | answers (place : Nat) (words : TransportWords) (reaction : Reaction) (pending : Pending) (outcome : Outcome)
      (waits : ⟨pending, .sent⟩ ∈ sharing.flights)
      (reacts : sharing.document.Reacts pending.request outcome) :
      Performed sharing (.answer place words reaction)
        (sharing.move place pending (.answered sharing.document outcome))
  /-- The end of an exchange is handled. -/
  | handles (place : Nat) (pending : Pending) (origin : Document) (outcome : Outcome)
      (ended : ⟨pending, .answered origin outcome⟩ ∈ sharing.flights) :
      Performed sharing (.handle place)
        ({ sharing with fetcher := sharing.fetcher.keep (pending.handle outcome) }.move place pending
          (.handled origin outcome (pending.handle outcome)))
  /-- A fetch is dropped. -/
  | drops (place : Nat) (flight : Flight) (there : flight ∈ sharing.flights) :
      Performed sharing (.drop place) (sharing.move place flight.pending .dropped)

/-- Every step is one of these. -/
theorem performed_of_step (stepped : sharing.step action = some next) : Performed sharing action next := by
  cases action with
  | «begin» context =>
    obtain rfl := Option.some.inj stepped
    exact .begins context
  | change document =>
    obtain rfl := Option.some.inj stepped
    exact .changes document
  | answer place words reaction =>
    simp only [step, answer?] at stepped
    split at stepped
    · rename_i pending found
      split at stepped
      · rename_i reacts
        obtain rfl := Option.some.inj stepped
        exact .answers place words reaction pending _ (List.mem_of_getElem? found) reacts
      · contradiction
    · contradiction
  | handle place =>
    simp only [step, handle?] at stepped
    split at stepped
    · rename_i pending origin outcome found
      obtain rfl := Option.some.inj stepped
      exact .handles place pending origin outcome (List.mem_of_getElem? found)
    · contradiction
  | drop place =>
    simp only [step, drop?] at stepped
    split at stepped
    · rename_i pending found
      obtain rfl := Option.some.inj stepped
      exact .drops place _ (List.mem_of_getElem? found)
    · rename_i pending _ _ found
      obtain rfl := Option.some.inj stepped
      exact .drops place _ (List.mem_of_getElem? found)
    · contradiction

/-- A fetch that comes to a sound stage leaves all fetches sound. -/
theorem Sound.move {place : Nat} {pending : Pending} {stage : Stage} (sound : Sound documents sharing)
    (moved : Flight.Sound documents ⟨pending, stage⟩) :
    Sound documents (sharing.move place pending stage) := by
  refine ⟨sound.known, sound.kept, fun flight member => ?_⟩
  rcases List.mem_or_eq_of_mem_set member with before | same
  · exact sound.flights flight before
  · exact same ▸ moved

/-- Every step leaves all fetches sound, if the server has changed to one of the documents only. -/
theorem sound_step (tagged : Tagged documents) (distinct : Document.Distinct documents)
    (within : ∀ document, action = .change document → documents document)
    (stepped : sharing.step action = some next) (sound : Sound documents sharing) :
    Sound documents next := by
  cases performed_of_step stepped with
  | begins context =>
    refine ⟨sound.known, sound.kept, fun flight member => ?_⟩
    rcases List.mem_append.mp member with before | last
    · exact sound.flights flight before
    · rw [List.mem_singleton.mp last]
      exact ⟨sound.kept, ⟨context.currentVersion, rfl⟩, trivial⟩
  | changes document => exact ⟨within document rfl, sound.kept, sound.flights⟩
  | answers place words reaction pending outcome waits reacts =>
    have before := sound.flights _ waits
    exact sound.move ⟨before.captured, before.names, sound.known, reacts⟩
  | handles place pending origin outcome ended =>
    have before := sound.flights _ ended
    obtain ⟨known, reacts⟩ := before.stage
    have faithful := faithful_of_reacts tagged distinct before.captured before.names known reacts
    have kept := Polling.kept_keep known reacts sound.kept
    have sound : Sound documents { sharing with fetcher := sharing.fetcher.keep (pending.handle outcome) } :=
      ⟨sound.known, kept, sound.flights⟩
    exact sound.move ⟨before.captured, before.names, faithful⟩
  | drops place flight there =>
    have before := sound.flights flight there
    exact sound.move ⟨before.captured, before.names, trivial⟩

/-- Every history leaves all fetches sound, if the server changes to one of the documents only. -/
theorem sound_run (tagged : Tagged documents) (distinct : Document.Distinct documents)
    (within : ∀ document, .change document ∈ history → documents document)
    (sound : Sound documents sharing) (ran : sharing.run history = some next) : Sound documents next := by
  refine Machine.keeps_history
    (fun past middle => (∀ document, .change document ∈ past → documents document) → Sound documents middle)
    (fun _ stepped kept within => ?_) (fun _ => sound) ran within
  have before := kept fun document member => within document (List.mem_append_left _ member)
  have here := fun document same => within document (List.mem_append_right _ (List.mem_singleton.mpr same))
  exact sound_step tagged distinct (fun document same => here document same.symm) stepped before

/-- A fetcher that has kept nothing, before any fetch. -/
theorem sound_fresh (endpoint : Url) (apiKey : String) (requestTimeout : Duration) {document : Document}
    (known : documents document) : Sound documents (fresh endpoint apiKey requestTimeout document) where
  known := known
  kept cached found := by simp [fresh] at found
  flights flight member := by simp [fresh] at member

/-- Whatever overlaps, and whatever the fetcher keeps meanwhile, every fetch has come to the document that
the server had when it answered this fetch. -/
theorem faithful_flights (endpoint : Url) (apiKey : String) (requestTimeout : Duration)
    (documents : Document → Prop) (tagged : Tagged documents) (distinct : Document.Distinct documents)
    (document : Document) (known : documents document) (history : List SharingAction)
    (within : ∀ document, .change document ∈ history → documents document) (sharing : Sharing)
    (ran : (fresh endpoint apiKey requestTimeout document).run history = some sharing) :
    ∀ flight ∈ sharing.flights, ∀ origin outcome fetched,
      flight.stage = .handled origin outcome fetched → Faithful origin outcome fetched := by
  have start := sound_fresh endpoint apiKey requestTimeout known
  have sound : Sound documents sharing := sound_run tagged distinct within start ran
  intro flight member origin outcome fetched handled
  have stage := (sound.flights flight member).stage
  rw [handled] at stage
  exact stage

/-- A document under a tag of its own. -/
def early : Document := ⟨some (Text.Utf8.encode "\"a\""), Text.Utf8.encode "\x7b\"flags\":\x7b\"a\":true\x7d\x7d"⟩

/-- Another document under another tag. -/
def late : Document := ⟨some (Text.Utf8.encode "\"b\""), Text.Utf8.encode "\x7b\"flags\":\x7b\"b\":true\x7d\x7d"⟩

/-- What a caller tells the source that has no version in use. -/
def unversioned : FetchContext := ⟨none, 1, .zero⟩

/-- A transport that has no words. -/
def wordless : TransportWords := fun _ => ""

/-- The first fetch brings the early document. Two more begin, the server changes to the late document and
answers the last one, changes back and answers the other one, which has nothing new for it. The last fetch
is handled first, so the fetcher keeps the late document when the other fetch is handled. -/
def crossing : List SharingAction :=
  [.begin unversioned, .answer 0 wordless (.answers ⟨200, [("ETag", Text.Utf8.encode "\"a\"")], .whole early.body⟩),
    .handle 0, .begin unversioned, .begin unversioned, .change late,
    .answer 2 wordless (.answers ⟨200, [("ETag", Text.Utf8.encode "\"b\"")], .whole late.body⟩), .change early,
    .answer 1 wordless (.answers ⟨304, [], .whole []⟩), .handle 2, .handle 1]

/-- The flags of the early document. -/
def earlyFlags : FlagSet := FlagSet.empty.withFlag "a" (.boolean true)

/-- The early document is the text of these flags. -/
theorem writes_early : early.Writes earlyFlags where
  text := ⟨"\x7b\"flags\":\x7b\"a\":true\x7d\x7d", rfl, earlyFlags.flags.entries, .refl _, by decide +kernel⟩
  plain entry member := by
    rw [List.mem_singleton.mp member]
    exact ⟨fun _ => nofun, fun _ => nofun⟩
  legible entry member := by
    rw [List.mem_singleton.mp member]
    exact .bool _ true

/-- The fetch that was told "not modified" brings the flags of the early document under the version that its tag says,
although the fetcher keeps the late document when this is handled. -/
theorem faithful_flights_crossing :
    Tagged (· ∈ [early, late]) ∧ Document.Distinct (· ∈ [early, late]) ∧
    ∃ sharing flight fetched set,
      (fresh Polling.freshFetcher.endpoint "key" .zero early).run crossing = some sharing ∧
      sharing.flights[1]? = some flight ∧
      flight.stage = .handled early (.ok ⟨304, [], .whole []⟩) fetched ∧
      sharing.fetcher.cached.bind (·.entityTag) = some "\"b\"" ∧
      fetched.result = .ok set ∧ set.flags.entries = [("a", .boolean true)] ∧ set.version = some "a" := by
  have texts : ∀ document ∈ [early, late], (document.entityTag.bind headerText?).isSome = true := by
    decide +kernel
  have tagged : Tagged (· ∈ [early, late]) := by
    intro document member
    obtain ⟨text, reads⟩ := Option.isSome_iff_exists.mp (texts document member)
    obtain ⟨tag, came, reads⟩ := Option.bind_eq_some_iff.mp reads
    exact ⟨tag, text, came, reads⟩
  have distinct : Document.Distinct (· ∈ [early, late]) := Document.distinct_pair (by decide +kernel)
  obtain ⟨sharing, ran⟩ : ∃ sharing,
      (fresh Polling.freshFetcher.endpoint "key" .zero early).run crossing = some sharing :=
    Option.isSome_iff_exists.mp (by decide +kernel)
  have facts : ((fresh Polling.freshFetcher.endpoint "key" .zero early).run crossing).map (fun sharing =>
      (sharing.fetcher.cached.bind (·.entityTag), (sharing.flights[1]?.bind (·.stage.ended?)).map
        fun ended => (ended.1, ended.2.1))) =
      some (some "\"b\"", some (early, .ok ⟨304, [], .whole []⟩)) := by
    decide +kernel
  rw [ran, Option.map_some, Option.some.injEq] at facts
  obtain ⟨kept, ended⟩ := Prod.mk.inj facts
  obtain ⟨⟨origin, outcome, fetched⟩, ended, parts⟩ := Option.map_eq_some_iff.mp ended
  obtain ⟨rfl, rfl⟩ := Prod.mk.inj parts
  obtain ⟨flight, found, ended⟩ := Option.bind_eq_some_iff.mp ended
  have handled := Stage.handled_of_ended? ended
  have faithful := faithful_flights Polling.freshFetcher.endpoint "key" .zero (· ∈ [early, late]) tagged
    distinct early (by simp) crossing (by simp [crossing]) sharing ran flight (List.mem_of_getElem? found)
    early _ fetched handled
  obtain ⟨set, result⟩ := faithful.notModified _ rfl rfl
  obtain ⟨flags, version⟩ := faithful.written earlyFlags set writes_early result
  have named : (early.entityTag.bind headerText?).map EntityTag.unquote = some "a" := by decide +kernel
  refine ⟨tagged, distinct, sharing, flight, fetched, set, ran, found, handled, kept, result, ?_, ?_⟩
  · rw [flags]
    rfl
  · rw [versionOf_iff.mp version, named]
    rfl

end Sharing

end LiveFlags.Http
