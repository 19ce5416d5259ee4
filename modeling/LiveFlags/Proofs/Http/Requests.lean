import LiveFlags.Proofs.Client.Numbering
import LiveFlags.Proofs.Http.HeaderText
import LiveFlags.Proofs.Http.Run

/-!
# Requests that can be sent

If the address is one of the web and the key can be sent, the request of a poll can be sent unless it has to
name a version that no header can hold (`Mute`): what the fetcher keeps has come without a tag that is
text, and the version that was visible when the fetch began contains a control character. A tag can always
be sent, since it has been read from a header; a version comes out of a document, and nothing checks it
before it is sent. When a visible version is like that every request fails before it is sent, so nothing
ever takes the place of the version (`silent_run`).
-/
namespace LiveFlags.Http

/-- The fetch has to name a version in place of a tag, and no header can hold this version. -/
def Mute (kept : Option Cached) (version : Option String) : Prop :=
  ∃ cached text, kept = some cached ∧ cached.entityTag = none ∧ version = some text ∧
    isHeaderText text = false

/-- The tag that is kept, if there is one, can be sent. -/
def TagSendable (kept : Option Cached) : Prop :=
  ∀ cached tag, kept = some cached → cached.entityTag = some tag → isHeaderText tag = true

/-- The address is one of the web. -/
def isWeb (url : Url) : Bool := url.scheme = "http" || url.scheme = "https"

/-- An answer that brings a document comes with a tag that is text. -/
def PollingAction.BringsTag : PollingAction → Prop
  | .conclude (.ok answer) _ => answer.isSuccess = true → answer.entityTag?.isSome = true
  | _ => True

/-- Every version that the action brings can be sent. -/
def PollingAction.BringsPlain : PollingAction → Prop
  | .client (.publish snapshot) => snapshot.version.all isHeaderText = true
  | .conclude (.ok answer) _ => ∀ bytes set, answer.body = .whole bytes → readDocument bytes = .ok set →
    set.version.all isHeaderText = true
  | _ => True

variable {kept : Option Cached} {version : Option String}

/-- What a mute fetch would have to send is no value of a header. -/
theorem illegal_of_mute (mute : Mute kept version) :
    ((kept.bind (·.validator version)).map Text.Utf8.encode).all isLegalHeader = false := by
  obtain ⟨cached, text, rfl, untagged, rfl, control⟩ := mute
  simp [Cached.validator, untagged, isLegalHeader_encode, isHeaderText_quote, control]

/-- What a fetch sends that is not mute is a value of a header. -/
theorem legal_of_not_mute (sendable : TagSendable kept) (clear : ¬Mute kept version) :
    ((kept.bind (·.validator version)).map Text.Utf8.encode).all isLegalHeader = true := by
  cases kept with
  | none => rfl
  | some cached =>
    cases tagged : cached.entityTag with
    | some tag =>
      have plain := sendable cached tag rfl tagged
      simp [Cached.validator, tagged, isLegalHeader_encode, plain]
    | none =>
      cases version with
      | none => simp [Cached.validator, tagged]
      | some text =>
        have plain : isHeaderText text = true := by
          cases control : isHeaderText text with
          | true => rfl
          | false => exact absurd ⟨cached, text, rfl, tagged, rfl, control⟩ clear
        simp [Cached.validator, tagged, isLegalHeader_encode, isHeaderText_quote, plain]

/-- A tag that comes with an answer can be sent. -/
theorem isHeaderText_of_entityTag? {answer : Answer} {tag : String} (came : answer.entityTag? = some tag) :
    isHeaderText tag = true := by
  obtain ⟨value, _, read⟩ := Option.bind_eq_some_iff.mp came
  exact isHeaderText_of_headerText? read

/-- The tag that is kept after an exchange can be sent. -/
theorem tagSendable_keep {fetcher : Fetcher} (pending : Pending) (outcome : Outcome)
    (sendable : TagSendable fetcher.cached) :
    TagSendable (fetcher.keep (pending.handle outcome)).cached := by
  intro cached tag found tagged
  rcases cached_keep found with before | ⟨answer, _, _, same, _⟩
  · exact sendable cached tag before tagged
  · exact isHeaderText_of_entityTag? (same.symm.trans tagged)

/-- A document whose version can be sent has, with the tag that it comes with, a version that can be
sent. -/
theorem plain_versioned {set : FlagSet} (answer : Answer)
    (plain : set.version.all isHeaderText = true) :
    (versioned set answer.entityTag?).version.all isHeaderText = true := by
  cases held : set.version with
  | some text => simpa [versioned, held] using plain
  | none =>
    cases came : answer.entityTag? with
    | none => simp [versioned, held]
    | some tag =>
      have sent := isHeaderText_unquote (isHeaderText_of_entityTag? came)
      simp [versioned, held, sent]

namespace Polling

/-- The exchange in flight ends as some way to some server has it, and only the poll task publishes. -/
def Conveyed (polling : Polling) : PollingAction → Prop
  | .client action => ∀ snapshot, action ≠ .publish snapshot
  | .conclude outcome _ => ∀ pending, polling.pending = some pending →
    ∃ (route : Route) (words : TransportWords) (reaction : Reaction),
      outcome = route.exchange words pending.request reaction

/-- No fetch reaches a server, neither the one in flight nor one that begins while the version stays. -/
structure Silent (polling : Polling) : Prop where
  /-- A fetch that begins now is mute. -/
  mute : Mute polling.fetcher.cached polling.client.store.current.version
  /-- The request in flight cannot be sent. -/
  unsendable : ∀ pending, polling.pending = some pending → pending.request.isSendable = false

/-- Every version that a request may name can be sent. -/
structure Plain (polling : Polling) : Prop where
  /-- The visible version. -/
  visible : polling.client.store.current.version.all isHeaderText = true
  /-- The version that the source was told. -/
  told : polling.handed.all isHeaderText = true
  /-- The version of what is kept. -/
  kept : ∀ cached, polling.fetcher.cached = some cached → cached.set.version.all isHeaderText = true

/-- What holds of the requests in every state that can be reached with a fetcher of this address and key. -/
structure Asking (endpoint : Url) (apiKey : String) (polling : Polling) : Prop where
  /-- The fetch in flight is the last one. -/
  flying : Flying polling
  /-- The tag that is kept can be sent. -/
  tag : TagSendable polling.fetcher.cached
  /-- The address stays. -/
  endpoint : polling.fetcher.endpoint = endpoint
  /-- The key stays. -/
  apiKey : polling.fetcher.apiKey = apiKey

variable {polling next : Polling} {action : PollingAction} {actions : List PollingAction}

/-- Every step leaves the address, the key and a tag that can be sent. -/
theorem asking_step {endpoint : Url} {apiKey : String} (stepped : polling.step action = some next)
    (asking : Asking endpoint apiKey polling) : Asking endpoint apiKey next := by
  have flying := flying_step stepped asking.flying
  rcases step_cases stepped with ⟨_, _, _, _, _, rfl⟩ | ⟨outcome, _, pending, _, _, _, _, rfl⟩
  · exact ⟨flying, asking.tag, asking.endpoint, asking.apiKey⟩
  · exact ⟨flying, tagSendable_keep pending outcome asking.tag, asking.endpoint, asking.apiKey⟩

/-- The request in flight can be sent exactly if the address is one of the web and the fetch is not mute. -/
theorem isSendable_iff {endpoint : Url} {apiKey : String} {pending : Pending}
    (legal : isLegalHeader (Text.Utf8.encode apiKey) = true) (asking : Asking endpoint apiKey polling)
    (captured : polling.pending = some pending) :
    (pending.request.ifNoneMatch.all isLegalHeader = true ↔
        ¬Mute polling.fetcher.cached polling.handed) ∧
      (pending.request.isSendable = true ↔
        isWeb endpoint = true ∧ ¬Mute polling.fetcher.cached polling.handed) := by
  obtain ⟨all, asked⟩ := ifNoneMatch_of_flying asking.flying captured
  have named : pending.request.ifNoneMatch.all isLegalHeader = true ↔
      ¬Mute polling.fetcher.cached polling.handed := by
    rw [asked, all]
    refine ⟨fun sent mute => ?_, legal_of_not_mute asking.tag⟩
    rw [illegal_of_mute mute] at sent
    contradiction
  have key : isLegalHeader pending.request.authorization = true := by
    obtain ⟨call, _, rfl⟩ := asking.flying pending captured
    rw [isLegalHeader_encode] at legal
    simp only [Fetcher.capture, Fetcher.request, asking.apiKey, isLegalHeader_encode,
      isHeaderText_append, legal]
    decide
  have address : pending.request.url = endpoint := by
    obtain ⟨call, _, rfl⟩ := asking.flying pending captured
    exact asking.endpoint
  refine ⟨named, ?_⟩
  rw [Request.isSendable, key, address, Bool.and_true, Bool.and_eq_true, named]
  rfl

/-- If every document comes with a tag that is text, no fetch is mute. -/
theorem tagged_run (brings : ∀ action ∈ actions, action.BringsTag) (ran : polling.run actions = some next)
    (fresh : polling.fetcher.cached = none) : ¬Mute next.fetcher.cached next.handed := by
  have tagged : ∀ cached, next.fetcher.cached = some cached → cached.entityTag.isSome = true := by
    refine run_keeps
      (fun polling => ∀ cached, polling.fetcher.cached = some cached → cached.entityTag.isSome = true)
      (fun {polling next action} allowed stepped held => ?_) (along_of_forall brings) ran (by simp [fresh])
    rcases step_cases stepped with ⟨_, _, _, _, _, rfl⟩ | ⟨outcome, _, pending, _, rfl, _, _, rfl⟩
    · exact held
    · intro cached found
      rcases cached_keep found with before | ⟨answer, rfl, success, same, _⟩
      · exact held cached before
      · rw [same]
        exact allowed success
  rintro ⟨cached, _, found, untagged, _⟩
  have text := tagged cached found
  rw [untagged] at text
  contradiction

/-- A fetch that begins is told a version that can be sent if the visible version can be. -/
theorem plain_told {client next : Client} {action : Action} (stepped : client.step action = some next)
    (visible : client.store.current.version.all isHeaderText = true)
    (told : (client.fetches.back?.bind (·.context.currentVersion)).all isHeaderText = true) :
    (next.fetches.back?.bind (·.context.currentVersion)).all isHeaderText = true := by
  rcases Client.fetches_step stepped with same | ⟨call, pushed, current⟩
  · rw [same]
    exact told
  · rw [pushed, Array.back?_push, Option.bind_some, current]
    exact visible

/-- What a fetch brings has a version that can be sent if what was captured has, and every document. -/
theorem plain_of_result {pending : Pending} {outcome : Outcome} {draw : Draw} {set : FlagSet}
    (brings : (PollingAction.conclude outcome draw).BringsPlain)
    (captured : ∀ cached, pending.captured = some cached → cached.set.version.all isHeaderText = true)
    (result : (pending.handle outcome).result = .ok set) : set.version.all isHeaderText = true := by
  rcases pending.handle_cases outcome with
    ⟨error, refused⟩ | reused | ⟨answer, bytes, document, rfl, _, came, read, got, _⟩
  · rw [refused] at result
    contradiction
  · rw [reused, Pending.reuse] at result
    cases found : pending.captured with
    | none => simp [found] at result
    | some cached =>
      rw [found] at result
      obtain rfl := Except.ok.inj result
      exact captured cached found
  · rw [got] at result
    obtain rfl := Except.ok.inj result
    exact plain_versioned answer (brings bytes document came read)

/-- A set that a fetch gives as a source is the one that it brings. -/
theorem result_of_sourceResult {fetched : Fetched} {set : FlagSet}
    (given : fetched.sourceResult = .ok set) : fetched.result = .ok set := by
  unfold Fetched.sourceResult at given
  split at given
  · rename_i own result
    rw [result, Except.ok.inj given]
  · contradiction

/-- A step that brings only versions that can be sent leaves only such versions. -/
theorem plain_step (brings : action.BringsPlain) (stepped : polling.step action = some next)
    (flying : Flying polling) (plain : Plain polling) : Plain next := by
  obtain ⟨visible, told, kept⟩ := plain
  rcases step_cases stepped with ⟨own, client, rfl, inner, went, rfl⟩ |
    ⟨outcome, draw, pending, client, rfl, captured, went, rfl⟩
  · refine ⟨?_, plain_told went visible told, kept⟩
    rcases Client.version_step went with same | ⟨set, _, rfl, _⟩ | ⟨snapshot, rfl, new⟩
    · rw [follow, same]
      exact visible
    · contradiction
    · rw [follow, new]
      exact brings
  · have all := (ifNoneMatch_of_flying flying captured).1
    have brought : ∀ set, (pending.handle outcome).result = .ok set →
        set.version.all isHeaderText = true :=
      fun set => plain_of_result brings fun cached found => kept cached (all.symm.trans found)
    refine ⟨?_, plain_told went visible told, ?_⟩
    · rcases Client.version_step went with same | ⟨set, _, answered, new⟩ | ⟨_, other, _⟩
      · rw [same]
        exact visible
      · rw [new]
        exact brought set (result_of_sourceResult (Action.answer.inj answered).1)
      · contradiction
    · intro cached found
      rcases cached_keep found with before | ⟨_, _, _, _, got⟩
      · exact kept cached before
      · exact brought cached.set got

/-- If every version that comes along can be sent, no fetch is mute. -/
theorem plain_run (brings : ∀ action ∈ actions, action.BringsPlain) (ran : polling.run actions = some next)
    (flying : Flying polling) (plain : Plain polling) : ¬Mute next.fetcher.cached next.handed := by
  have kept := run_keeps (fun polling => Flying polling ∧ Plain polling)
    (fun allowed stepped held => ⟨flying_step stepped held.1, plain_step allowed stepped held.1 held.2⟩)
    (along_of_forall brings) ran ⟨flying, plain⟩
  rintro ⟨_, text, _, _, told, control⟩
  have sent := kept.2.told
  rw [told, Option.all_some, control] at sent
  contradiction

/-- In a silent state every step changes nothing that is visible or kept, and the state stays silent. -/
theorem silent_step (conveyed : polling.Conveyed action) (stepped : polling.step action = some next)
    (silent : Silent polling) :
    Silent next ∧ next.client.store = polling.client.store ∧ next.fetcher = polling.fetcher := by
  obtain ⟨mute, unsendable⟩ := silent
  rcases step_cases stepped with ⟨own, client, rfl, inner, went, rfl⟩ |
    ⟨outcome, draw, pending, client, rfl, captured, went, rfl⟩
  · have store := store_step went inner conveyed
    refine ⟨⟨?_, ?_⟩, store, rfl⟩
    · rw [follow, store]
      exact mute
    · intro pending captured
      rcases pending_follow went captured with ⟨before, _⟩ | ⟨call, _, rfl, current⟩
      · exact unsendable pending before
      · have illegal : (polling.fetcher.request call.context).ifNoneMatch.all isLegalHeader = false := by
          rw [Fetcher.request, current]
          exact illegal_of_mute mute
        simp only [Request.isSendable, Fetcher.capture, illegal, Bool.and_false]
  · -- a request that cannot be sent has no answer
    obtain ⟨route, words, reaction, rfl⟩ := conveyed pending captured
    have failed : route.exchange words pending.request reaction = .error (words.fault .unsendable) := by
      simp [Route.exchange, unsendable pending captured]
    rw [failed] at went ⊢
    have store := Client.store_of_error went
    refine ⟨⟨?_, fun _ flying => by contradiction⟩, store, rfl⟩
    rw [store]
    exact mute

/-- From a silent state on nothing that is visible or kept ever changes, and no request is ever sent. -/
theorem silent_run (conveyed : polling.Along Conveyed actions) (ran : polling.run actions = some next)
    (silent : Silent polling) :
    Silent next ∧ next.client.store = polling.client.store ∧ next.fetcher = polling.fetcher :=
  run_keeps
    (fun middle => Silent middle ∧ middle.client.store = polling.client.store ∧
      middle.fetcher = polling.fetcher)
    (fun allowed stepped held => by
      obtain ⟨silent', store, fetcher⟩ := silent_step allowed stepped held.1
      exact ⟨silent', store.trans held.2.1, fetcher.trans held.2.2⟩)
    conveyed ran ⟨silent, rfl, rfl⟩

/-- Nothing is delivered of a request that cannot be sent, and all of one that can. -/
theorem delivers_iff (request : Request) :
    Route.passable.delivers request = some request ↔ request.isSendable = true := by
  simp [Route.delivers]

/-- With a key that can be sent, the request of a poll reaches the server, if its address is one of the
web, unless the fetch is mute. No fetch is mute if every document comes with a tag that is text, or if
every version that comes along can be sent. Once a fetch would be mute for the visible version, no
request is ever delivered and the visible snapshot stays, as long as nobody else publishes. -/
theorem delivered_unless_mute (config : Config) (timerStep : Nat) (endpoint : Url) (apiKey : String)
    (requestTimeout : Duration) (actions : List PollingAction) (polling : Polling)
    (legal : isLegalHeader (Text.Utf8.encode apiKey) = true)
    (ran : (initial config timerStep ⟨endpoint, apiKey, requestTimeout, none⟩).run actions =
      some polling) :
    (∀ pending, polling.pending = some pending →
      (pending.request.ifNoneMatch.all isLegalHeader = true ↔
        ¬Mute polling.fetcher.cached polling.handed) ∧
      (Route.passable.delivers pending.request = some pending.request ↔
        isWeb endpoint = true ∧ ¬Mute polling.fetcher.cached polling.handed)) ∧
    ((∀ action ∈ actions, action.BringsTag) → ¬Mute polling.fetcher.cached polling.handed) ∧
    ((∀ action ∈ actions, action.BringsPlain) → ¬Mute polling.fetcher.cached polling.handed) ∧
    (Mute polling.fetcher.cached polling.client.store.current.version →
      (∀ pending, polling.pending = some pending → pending.request.isSendable = false) →
      ∀ later last, polling.Along Conveyed later → polling.run later = some last →
        last.client.store = polling.client.store ∧
        ∀ pending, last.pending = some pending → Route.passable.delivers pending.request = none) := by
  have flying : Flying (initial config timerStep ⟨endpoint, apiKey, requestTimeout, none⟩) := by
    intro pending captured
    simp [initial] at captured
  have asking : Asking endpoint apiKey polling :=
    run_keeps (Asking endpoint apiKey) (fun _ => asking_step) (along_of_forall fun _ _ => trivial) ran
      ⟨flying, by simp [TagSendable, initial], rfl, rfl⟩
  refine ⟨fun pending captured => ?_, fun brings => tagged_run brings ran rfl,
    fun brings => plain_run brings ran flying ⟨rfl, rfl, by simp [initial]⟩, ?_⟩
  · rw [delivers_iff]
    exact isSendable_iff legal asking captured
  · intro mute unsendable later last conveyed ran'
    obtain ⟨silent, store, _⟩ := silent_run conveyed ran' ⟨mute, unsendable⟩
    refine ⟨store, fun pending captured => ?_⟩
    simp [Route.delivers, silent.unsendable pending captured]

/-- The first poll brings a document without a tag, and the second has begun. -/
def untaggedRun (document : String) : List PollingAction :=
  [.client (.call 0 .start), .client .takeLock, .client .resume,
    .conclude (.ok ⟨200, [], .whole (Text.Utf8.encode document)⟩) .half, .client (.elapse 30000000000),
    .client .resume]

/-- A document whose version is not of ASCII. -/
def umlaut : String := "\x7b\"flags\":\x7b\x7d,\"version\":\"\u00fc\"\x7d"

/-- The second request names the version of the first document, and it is delivered. -/
theorem delivered_unless_mute_untaggedRun :
    isLegalHeader (Text.Utf8.encode freshFetcher.apiKey) = true ∧
    ∃ polling pending, (initial .default 1000000 freshFetcher).run (untaggedRun umlaut) = some polling ∧
      polling.pending = some pending ∧
      pending.request.ifNoneMatch = some [0x22, 0xC3, 0xBC, 0x22] ∧
      Route.passable.delivers pending.request = some pending.request := by
  have legal : isLegalHeader (Text.Utf8.encode freshFetcher.apiKey) = true := by decide +kernel
  have facts : (((initial .default 1000000 freshFetcher).run (untaggedRun umlaut)).bind (·.pending)).map
      (·.request.ifNoneMatch) = some (some [0x22, 0xC3, 0xBC, 0x22]) := by
    decide +kernel
  obtain ⟨pending, flying, asked⟩ := Option.map_eq_some_iff.mp facts
  obtain ⟨polling, ran, captured⟩ := Option.bind_eq_some_iff.mp flying
  obtain ⟨sent, _, clear, _⟩ := delivered_unless_mute .default 1000000 freshFetcher.endpoint
    freshFetcher.apiKey freshFetcher.requestTimeout (untaggedRun umlaut) polling legal ran
  have plain : ((readDocument (Text.Utf8.encode umlaut)).toOption.map
      fun set => set.version.all isHeaderText) = some true := by
    decide +kernel
  refine ⟨legal, polling, pending, ran, captured, asked, (sent pending captured).2.mpr ⟨rfl, clear ?_⟩⟩
  simp only [untaggedRun, List.forall_mem_cons, PollingAction.BringsPlain, List.not_mem_nil,
    false_implies, implies_true, and_true, true_and]
  intro bytes set came read
  obtain rfl := Body.whole.inj came
  rw [read] at plain
  exact Option.some.inj plain

/-- A document whose version contains a line feed. -/
def twoLines : String := "\x7b\"flags\":\x7b\x7d,\"version\":\"a\\nb\"\x7d"

/-- After a poll has brought a document whose version contains a line feed, no request is delivered any
more, and this version stays. -/
theorem lineFeed_disables :
    isLegalHeader (Text.Utf8.encode freshFetcher.apiKey) = true ∧
    ∃ polling pending, (initial .default 1000000 freshFetcher).run (untaggedRun twoLines) = some polling ∧
      polling.pending = some pending ∧ pending.request.ifNoneMatch.all isLegalHeader = false ∧
      Route.passable.delivers pending.request = none ∧
      polling.client.snapshot.version = some "a\nb" ∧
      ∀ later last, polling.Along Conveyed later → polling.run later = some last →
        last.client.snapshot.version = some "a\nb" ∧
        ∀ pending, last.pending = some pending → Route.passable.delivers pending.request = none := by
  have facts : ((initial .default 1000000 freshFetcher).run (untaggedRun twoLines)).bind
      (fun polling => polling.pending.map fun pending =>
        (pending.request.ifNoneMatch.all isLegalHeader, polling.client.snapshot.version,
          polling.fetcher.cached.map fun cached => cached.entityTag)) =
      some (false, some "a\nb", some none) := by
    decide +kernel
  obtain ⟨polling, ran, facts⟩ := Option.bind_eq_some_iff.mp facts
  obtain ⟨pending, captured, facts⟩ := Option.map_eq_some_iff.mp facts
  simp only [Prod.mk.injEq] at facts
  obtain ⟨illegal, version, kept⟩ := facts
  obtain ⟨cached, found, untagged⟩ := Option.map_eq_some_iff.mp kept
  have unsendable : pending.request.isSendable = false := by
    rw [Request.isSendable, illegal, Bool.and_false]
  have silent : Silent polling := by
    refine ⟨⟨cached, "a\nb", found, untagged, version, by decide⟩, fun other captured' => ?_⟩
    obtain rfl := Option.some.inj (captured.symm.trans captured')
    exact unsendable
  refine ⟨by decide +kernel, polling, pending, ran, captured, illegal, ?_, version,
    fun later last conveyed ran' => ?_⟩
  · simp [Route.delivers, unsendable]
  · obtain ⟨silent', store, _⟩ := silent_run conveyed ran' silent
    refine ⟨?_, fun other captured' => ?_⟩
    · rw [Client.snapshot, store]
      exact version
    · simp [Route.delivers, silent'.unsendable other captured']

end Polling

end LiveFlags.Http
