import LiveFlags.Proofs.Client.Numbering
import LiveFlags.Proofs.Http.Run
import LiveFlags.Proofs.Http.Server

/-!
# Revalidation

A client polls a server that keeps to the rules of entity tags and whose document may change between any
two polls. What the fetcher keeps has always been served with its tag (`Kept`), and the fetch in flight
has captured it (`Flying`). So a fetch brings the document that the server has, with one exception, which
`revalidation_exact` pins down: what is kept has come without a tag that is text, and the version that the
client has in use, put in quotes, is the validator of another document.
-/
namespace LiveFlags.Http

variable {documents : Document → Prop}

/-- What the fetcher keeps has been served. -/
def Kept (documents : Document → Prop) (kept : Option Cached) : Prop :=
  ∀ cached, kept = some cached → ∃ document, documents document ∧ document.Served cached

namespace Polling

/-- The action leaves the store to the poll task, and every exchange to a server that has one of the
documents at its end. -/
def Allows (documents : Document → Prop) (polling : Polling) : PollingAction → Prop
  | .client action => ∀ snapshot, action ≠ .publish snapshot
  | .conclude outcome _ => ∀ pending, polling.pending = some pending →
    ∃ document, documents document ∧ document.Reacts pending.request outcome

/-- Only the poll task publishes along the run, and every exchange is with a server that has one of the
documents at its end. -/
def ServedFrom (documents : Document → Prop) (polling : Polling) : List PollingAction → Prop
  | [] => True
  | action :: actions => polling.Allows documents action ∧
    ∀ next, polling.step action = some next → next.ServedFrom documents actions

/-- Whether an action leaves the store to the poll task, and its exchange to a server that has one of these
documents at its end. -/
def isAllowedBy (documents : List Document) (polling : Polling) : PollingAction → Bool
  | .client (.publish _) => false
  | .client _ => true
  | .conclude outcome _ => polling.pending.all fun pending =>
    documents.any fun document => document.Reacts pending.request outcome

/-- Whether every action of a run is allowed by these documents. -/
def isServedBy (documents : List Document) (polling : Polling) : List PollingAction → Bool
  | [] => true
  | action :: actions => polling.isAllowedBy documents action &&
    match polling.step action with
    | some next => next.isServedBy documents actions
    | none => true

variable {polling next : Polling} {action : PollingAction} {actions : List PollingAction}

/-- What is kept after an exchange with the server has been served. -/
theorem kept_keep {document : Document} {pending : Pending} {outcome : Outcome} {fetcher : Fetcher}
    (known : documents document) (reacts : document.Reacts pending.request outcome)
    (kept : Kept documents fetcher.cached) :
    Kept documents (fetcher.keep (pending.handle outcome)).cached := by
  cases outcome with
  | error fault => exact kept
  | ok answer =>
    by_cases notModified : answer.status = 304
    · rw [Document.handle_of_notModified pending notModified]
      exact kept
    · rcases Document.handle_of_modified reacts notModified with
        ⟨error, refused⟩ | ⟨cached, served, _, new⟩
      · rw [refused]
        exact kept
      · intro found same
        rw [Fetcher.keep, new, Option.some_or] at same
        obtain rfl := Option.some.inj same
        exact ⟨document, known, served⟩

/-- Every exchange with a server that has one of the documents leaves what is kept served. -/
theorem kept_step (allowed : polling.Allows documents action) (stepped : polling.step action = some next)
    (kept : Kept documents polling.fetcher.cached) : Kept documents next.fetcher.cached := by
  rcases step_cases stepped with ⟨own, client, rfl, _, _, rfl⟩ | ⟨_, _, pending, _, rfl, flying, _, rfl⟩
  · exact kept
  · obtain ⟨document, known, reacts⟩ := allowed pending flying
    exact kept_keep known reacts kept

/-- A run with a server that has one of the documents is one in which every action is allowed. -/
theorem ServedFrom.along (served : polling.ServedFrom documents actions) :
    polling.Along (Allows documents) actions := by
  induction actions generalizing polling with
  | nil => trivial
  | cons action actions ih => exact ⟨served.1, fun next stepped => ih (served.2 next stepped)⟩

/-- A fetch brings the flags of the document that the server has, whichever that is. -/
def Truthful (documents : Document → Prop) (polling : Polling) : Prop :=
  ∀ pending document answer set, polling.pending = some pending → documents document →
    document.Answers pending.request answer → (pending.handle (.ok answer)).result = .ok set →
    document.flags? = some set.flags

/-- What is kept without a tag has the flags of every document whose validator is the version that the
client has in use, in quotes. -/
def Unmistakable (documents : Document → Prop) (polling : Polling) : Prop :=
  ∀ pending cached version document, polling.pending = some pending → pending.captured = some cached →
    cached.entityTag = none → polling.handed = some version → documents document →
    document.validator? = some (Text.Utf8.encode (EntityTag.quote version)) →
    document.flags? = some cached.set.flags

/-- A fetch can be trusted exactly if what is kept cannot be mistaken for another document. -/
theorem truthful_iff_unmistakable (distinct : Document.Distinct documents)
    (kept : Kept documents polling.fetcher.cached) (flying : Flying polling) :
    Truthful documents polling ↔ Unmistakable documents polling := by
  constructor
  · intro truthful pending cached version document captured found untagged told known named
    have asked := (ifNoneMatch_of_flying flying captured).2
    rw [found, Option.bind_some, Cached.validator, untagged, told] at asked
    -- a server that has the document answers "not modified"
    refine truthful pending document ⟨304, [], .whole []⟩ cached.set captured known ?_ ?_
    · unfold Document.Answers
      rw [if_pos ⟨by simp [asked], by rw [asked, named]; rfl⟩]
    · rw [Document.handle_of_notModified pending rfl, Pending.reuse, found]
  · intro unmistakable pending document answer set captured known answers brought
    by_cases notModified : answer.status = 304
    · rw [Document.handle_of_notModified pending notModified, Pending.reuse] at brought
      obtain ⟨validator, named, same⟩ := Document.validator_of_notModified answers notModified
      obtain ⟨all, asked⟩ := ifNoneMatch_of_flying flying captured
      rw [named] at asked
      obtain ⟨text, sent, rfl⟩ := Option.map_eq_some_iff.mp asked.symm
      obtain ⟨cached, found, text'⟩ := Option.bind_eq_some_iff.mp sent
      rw [found] at brought
      obtain rfl := Except.ok.inj brought
      cases tagged : cached.entityTag with
      | some tag =>
        -- the tag is the validator of the document that what is kept has come with
        rw [Cached.validator, tagged, Option.some_or] at text'
        obtain rfl := Option.some.inj text'
        obtain ⟨origin, origins, served⟩ := kept cached (all.symm.trans found)
        rw [served.eq_of_tag distinct origins known tagged same]
        exact served.flags
      | none =>
        rw [Cached.validator, tagged, Option.none_or] at text'
        obtain ⟨version, told, rfl⟩ := Option.map_eq_some_iff.mp text'
        exact unmistakable pending cached version document captured found tagged told known same
    · rcases Document.handle_of_modified answers notModified with
        ⟨error, refused⟩ | ⟨cached, served, got, _⟩
      · rw [refused] at brought
        contradiction
      · rw [got] at brought
        obtain rfl := Except.ok.inj brought
        exact served.flags

/-- Every tag of the documents is text, and where there is no tag the version is not written like one. -/
def Legible (documents : Document → Prop) : Prop :=
  ∀ document, documents document →
    (∀ tag, document.entityTag = some tag → (headerText? tag).isSome = true) ∧
    ∀ set version, document.entityTag = none → document.set? = some set → set.version = some version →
      EntityTag.quote version = "\"" ++ version ++ "\""

/-- Every document without a tag is well formed, if it can be read. -/
def Acceptable (documents : Document → Prop) : Prop :=
  ∀ document set, documents document → document.entityTag = none → document.set? = some set →
    set.validate = .ok ()

/-- If tags are text, what is kept without a tag has come without one. -/
theorem entityTag_of_untagged {document : Document} {cached : Cached} (legible : Legible documents)
    (known : documents document) (served : document.Served cached) (untagged : cached.entityTag = none) :
    document.entityTag = none := by
  obtain ⟨_, _, kept, _⟩ := served
  cases tag : document.entityTag with
  | none => rfl
  | some bytes =>
    rw [untagged, tag, Option.bind_some] at kept
    have text := (legible document known).1 bytes tag
    rw [← kept] at text
    contradiction

/-- If the version in use is that of what is kept without a tag, this cannot be mistaken. -/
theorem unmistakable_of_handed (distinct : Document.Distinct documents) (legible : Legible documents)
    (kept : Kept documents polling.fetcher.cached) (flying : Flying polling)
    (current : ∀ pending cached, polling.pending = some pending → pending.captured = some cached →
      cached.entityTag = none → polling.handed = cached.set.version) :
    Unmistakable documents polling := by
  intro pending cached version document captured found untagged told known named
  have all := (ifNoneMatch_of_flying flying captured).1
  obtain ⟨origin, origins, served⟩ := kept cached (all.symm.trans found)
  have plain := entityTag_of_untagged legible origins served untagged
  have own : cached.set.version = some version := by
    rw [← current pending cached captured found untagged, told]
  obtain ⟨set, read, _, same⟩ := id served
  rw [same, untagged] at own
  have held : set.version = some version := by simpa [versioned] using own
  have validator : origin.validator? = some (Text.Utf8.encode (EntityTag.quote version)) := by
    rw [(legible origin origins).2 set version plain read held, Document.validator?, plain, read]
    simp [held]
  rw [distinct document origin _ known origins named validator]
  exact served.flags

/-- What holds in every state that a client and a server with these documents can reach. -/
structure Polled (documents : Document → Prop) (polling : Polling) : Prop where
  /-- What the fetcher keeps has been served. -/
  kept : Kept documents polling.fetcher.cached
  /-- The fetch in flight is the last one. -/
  flying : Flying polling
  /-- The client is orderly. -/
  orderly : polling.client.Orderly
  /-- Sequences are given out in order. -/
  numbered : polling.client.Numbered

/-- A client that has not been started and a fetcher that keeps nothing. -/
theorem polled_initial (config : Config) (timerStep : Nat) (fetcher : Fetcher)
    (fresh : fetcher.cached = none) : Polled documents (initial config timerStep fetcher) where
  kept cached found := by simp [initial, fresh] at found
  flying pending captured := by simp [initial] at captured
  orderly := Client.orderly_initial config timerStep
  numbered := Client.numbered_initial config timerStep

/-- Every step of the client or of an exchange with the server keeps this. -/
theorem polled_step (allowed : polling.Allows documents action) (stepped : polling.step action = some next)
    (polled : Polled documents polling) : Polled documents next := by
  have kept := kept_step allowed stepped polled.kept
  have flying := flying_step stepped polled.flying
  rcases step_cases stepped with ⟨own, client, rfl, _, went, rfl⟩ |
    ⟨outcome, _, pending, client, rfl, _, went, rfl⟩
  · exact ⟨kept, flying, Client.orderly_step went polled.orderly,
      Client.numbered_step polled.orderly allowed went polled.numbered⟩
  · have orderly := polled.orderly.logging (pending.handle outcome).events
    exact ⟨kept, flying, Client.orderly_step went orderly,
      Client.numbered_step orderly (by simp) went (polled.numbered.logging _)⟩

/-- What is kept without a tag is in use. -/
structure InUse (polling : Polling) : Prop where
  /-- The visible version is that of what is kept. -/
  kept : ∀ cached, polling.fetcher.cached = some cached → cached.entityTag = none →
    polling.client.store.current.version = cached.set.version
  /-- The visible version is the one that the source was told. -/
  told : ∀ pending, polling.pending = some pending →
    polling.handed = polling.client.store.current.version

/-- A step of the client alone leaves in use what is kept. -/
theorem inUse_follow {own : Action} {client : Client} (inUse : InUse polling)
    (inner : isFromSource own = false) (alone : ∀ snapshot, own ≠ .publish snapshot)
    (stepped : polling.client.step own = some client) : InUse (polling.follow client) := by
  have store := store_step stepped inner alone
  refine ⟨?_, ?_⟩
  · rw [follow, store]
    exact inUse.kept
  · intro pending captured
    rcases pending_follow stepped captured with ⟨before, same⟩ | ⟨call, pushed, _, current⟩
    · simpa [follow, handed, same, store] using inUse.told pending before
    · simp [follow, handed, pushed, current, store]

/-- The flags that are kept without a tag are well formed, if every such document is. -/
theorem valid_of_untagged {document : Document} {cached : Cached} (legible : Legible documents)
    (acceptable : Acceptable documents) (known : documents document) (served : document.Served cached)
    (untagged : cached.entityTag = none) : cached.set.validate = .ok () := by
  have plain := entityTag_of_untagged legible known served untagged
  obtain ⟨set, read, _, same⟩ := served
  rw [same]
  exact acceptable document set known plain read

/-- The end of an exchange leaves in use what is kept. -/
theorem inUse_conclude {document : Document} {pending : Pending} {outcome : Outcome} {draw : Draw}
    {client : Client} (legible : Legible documents) (acceptable : Acceptable documents)
    (polled : Polled documents polling) (few : polling.client.fetches.size < greatestSequence)
    (captured : polling.pending = some pending) (known : documents document)
    (reacts : document.Reacts pending.request outcome)
    (stepped : (polling.client.logging (pending.handle outcome).events).step
      (.answer (pending.handle outcome).sourceResult draw) = some client)
    (inUse : InUse polling) : InUse ⟨client, polling.fetcher.keep (pending.handle outcome), none⟩ := by
  refine ⟨?_, fun _ flying => by contradiction⟩
  -- a set that is brought and well formed is in use from now on
  have used : ∀ set, (pending.handle outcome).result = .ok set → set.validate = .ok () →
      client.store.current.version = set.version := by
    intro set brought valid
    have source : (pending.handle outcome).sourceResult = .ok set := by
      simp [Fetched.sourceResult, brought]
    rw [source] at stepped
    exact Client.version_of_valid (polled.numbered.logging _) few stepped valid
  have unused : ∀ error, (pending.handle outcome).result = .error error →
      client.store = polling.client.store := by
    intro error refused
    have source : (pending.handle outcome).sourceResult = .error error.toFetchError := by
      simp [Fetched.sourceResult, refused]
    rw [source] at stepped
    have same := Client.store_of_error stepped
    exact same
  intro cached found untagged
  cases outcome with
  | error fault =>
    rw [unused (.request fault) rfl]
    exact inUse.kept cached found untagged
  | ok answer =>
    by_cases notModified : answer.status = 304
    · have reused := Document.handle_of_notModified pending notModified
      rw [reused] at found used
      have found : polling.fetcher.cached = some cached := found
      obtain ⟨origin, origins, served⟩ := polled.kept cached found
      have all := (ifNoneMatch_of_flying polled.flying captured).1.trans found
      exact used cached.set (by simp [Pending.reuse, all])
        (valid_of_untagged legible acceptable origins served untagged)
    · rcases Document.handle_of_modified reacts notModified with
        ⟨error, refused⟩ | ⟨new, served, got, kept⟩
      · rw [refused] at found
        rw [unused error (by rw [refused]; rfl)]
        exact inUse.kept cached found untagged
      · simp only [Fetcher.keep, kept, Option.some_or, Option.some.injEq] at found
        subst found
        exact used new.set got (valid_of_untagged legible acceptable known served untagged)

/-- A fetcher that keeps nothing has nothing to mistake. -/
theorem inUse_initial (config : Config) (timerStep : Nat) (fetcher : Fetcher)
    (fresh : fetcher.cached = none) : InUse (initial config timerStep fetcher) where
  kept cached found := by simp [initial, fresh] at found
  told pending captured := by simp [initial] at captured

/-- Every step leaves in use what is kept, as long as the sequences last. -/
theorem inUse_step (legible : Legible documents) (acceptable : Acceptable documents)
    (allowed : polling.Allows documents action) (stepped : polling.step action = some next)
    (polled : Polled documents polling)
    (inUse : polling.client.fetches.size < greatestSequence → InUse polling) :
    next.client.fetches.size < greatestSequence → InUse next := by
  intro few
  rcases step_cases stepped with ⟨own, client, rfl, inner, went, rfl⟩ |
    ⟨outcome, _, pending, client, rfl, captured, went, rfl⟩
  · have few := Nat.lt_of_le_of_lt (Client.size_fetches_le went) few
    exact inUse_follow (inUse few) inner allowed went
  · have few := Nat.lt_of_le_of_lt (Client.size_fetches_le went) few
    obtain ⟨document, known, reacts⟩ := allowed pending captured
    exact inUse_conclude legible acceptable polled few captured known reacts went (inUse few)

/-- A run that passes the check is one with such a server. -/
theorem servedFrom_of_isServedBy {documents : List Document}
    (checked : polling.isServedBy documents actions = true) :
    polling.ServedFrom (· ∈ documents) actions := by
  induction actions generalizing polling with
  | nil => trivial
  | cons action actions ih =>
    rw [isServedBy, Bool.and_eq_true] at checked
    obtain ⟨here, later⟩ := checked
    refine ⟨?_, ?_⟩
    · cases action with
      | client own =>
        intro snapshot same
        simp [same, isAllowedBy] at here
      | conclude outcome draw =>
        intro pending captured
        simpa [isAllowedBy, captured] using here
    · intro next stepped
      rw [stepped] at later
      exact ih later

/-- A client that polls a server whose document may change between any two polls is brought the document
of the server exactly if what the fetcher keeps cannot be mistaken for another one. That is so if the
client has the version of what is kept in use, and it is so in the whole run if every document without a
tag is well formed. -/
theorem revalidation_exact (config : Config) (timerStep : Nat) (endpoint : Url) (apiKey : String)
    (requestTimeout : Duration) (documents : Document → Prop) (distinct : Document.Distinct documents)
    (actions : List PollingAction) (polling : Polling)
    (ran : (initial config timerStep ⟨endpoint, apiKey, requestTimeout, none⟩).run actions = some polling)
    (served : (initial config timerStep ⟨endpoint, apiKey, requestTimeout, none⟩).ServedFrom documents
      actions) :
    (Truthful documents polling ↔ Unmistakable documents polling) ∧
    (Legible documents → (∀ pending cached, polling.pending = some pending →
      pending.captured = some cached → cached.entityTag = none →
      polling.handed = cached.set.version) → Truthful documents polling) ∧
    (Legible documents → Acceptable documents → polling.client.fetches.size < greatestSequence →
      Truthful documents polling) := by
  have start : Polled documents (initial config timerStep ⟨endpoint, apiKey, requestTimeout, none⟩) :=
    polled_initial config timerStep _ rfl
  have polled := run_keeps (Polled documents) polled_step served.along ran start
  have exactly := truthful_iff_unmistakable distinct polled.kept polled.flying
  refine ⟨exactly, ?_, ?_⟩
  · intro legible current
    exact exactly.mpr (unmistakable_of_handed distinct legible polled.kept polled.flying current)
  · intro legible acceptable few
    obtain ⟨_, inUse⟩ := run_keeps
      (fun polling => Polled documents polling ∧
        (polling.client.fetches.size < greatestSequence → InUse polling))
      (fun allowed stepped held => ⟨polled_step allowed stepped held.1,
        inUse_step legible acceptable allowed stepped held.1 held.2⟩)
      served.along ran ⟨start, fun _ => inUse_initial config timerStep _ rfl⟩
    refine exactly.mpr (unmistakable_of_handed distinct legible polled.kept polled.flying ?_)
    intro pending cached captured found untagged
    have all := (ifNoneMatch_of_flying polled.flying captured).1
    rw [(inUse few).told pending captured, (inUse few).kept cached (all.symm.trans found) untagged]

/-- A document without a tag, under the version "v1". -/
def stable : Document := ⟨none, Text.Utf8.encode "\x7b\"flags\":\x7b\"a\":true\x7d,\"version\":\"v1\"\x7d"⟩

/-- The first poll brings the stable document, and the second has begun. -/
def steadyRun : List PollingAction :=
  [.client (.call 0 .start), .client .takeLock, .client .resume,
    .conclude (.ok ⟨200, [], .whole stable.body⟩) .half, .client (.elapse 30000000000), .client .resume]

/-- Another document without a tag, under the version "v2". -/
def revised : Document := ⟨none, Text.Utf8.encode "\x7b\"flags\":\x7b\"a\":false\x7d,\"version\":\"v2\"\x7d"⟩

/-- The second poll brings the revised document, and the third has begun. -/
def changingRun : List PollingAction :=
  steadyRun ++ [.conclude (.ok ⟨200, [], .whole revised.body⟩) .half, .client (.elapse 30000000000),
    .client .resume]

/-- Both documents have a version that is not written like a tag. -/
theorem legible_changing : Legible (· ∈ [stable, revised]) := by
  have untagged : ∀ document ∈ [stable, revised], document.entityTag = none := by decide
  have named : ∀ document ∈ [stable, revised],
      (document.set?.bind (·.version)).all (fun version => EntityTag.quote version = "\"" ++ version ++ "\"") = true := by
    decide +kernel
  intro document known
  refine ⟨fun tag tagged => ?_, fun set version _ read held => ?_⟩
  · rw [untagged document known] at tagged
    contradiction
  · have quoted := named document known
    rw [read, Option.bind_some, held] at quoted
    simpa using quoted

/-- Both documents are well formed. -/
theorem acceptable_changing : Acceptable (· ∈ [stable, revised]) := by
  have valid : ∀ document ∈ [stable, revised], (document.set?.all fun set => set.validate.isOk) = true := by
    decide +kernel
  intro document set known _ read
  have checked := valid document known
  rw [read, Option.all_some] at checked
  cases same : set.validate with
  | ok => rfl
  | error => simp [same, Except.isOk, Except.toBool] at checked

/-- The document of the server has changed between two polls. The third poll names the version of the revised one, and
it can be trusted to bring the document that the server has, be it this one or the stable one again. -/
theorem revalidation_exact_changingRun :
    ∃ polling pending, (initial .default 1000000 freshFetcher).run changingRun = some polling ∧
      (initial .default 1000000 freshFetcher).ServedFrom (· ∈ [stable, revised]) changingRun ∧
      polling.pending = some pending ∧ pending.request.ifNoneMatch = some (Text.Utf8.encode "\"v2\"") ∧
      polling.handed = some "v2" ∧ Truthful (· ∈ [stable, revised]) polling := by
  have facts : ((initial .default 1000000 freshFetcher).run changingRun).map (fun polling =>
      (polling.pending.map (·.request.ifNoneMatch), polling.handed, polling.client.fetches.size)) =
      some (some (some (Text.Utf8.encode "\"v2\"")), some "v2", 3) := by
    decide +kernel
  obtain ⟨polling, ran, facts⟩ := Option.map_eq_some_iff.mp facts
  obtain ⟨asked, facts⟩ := Prod.mk.inj facts
  obtain ⟨handed, polls⟩ := Prod.mk.inj facts
  obtain ⟨pending, flying, asked⟩ := Option.map_eq_some_iff.mp asked
  have distinct : Document.Distinct (· ∈ [stable, revised]) := Document.distinct_pair (by decide +kernel)
  have served : (initial .default 1000000 freshFetcher).ServedFrom (· ∈ [stable, revised]) changingRun :=
    servedFrom_of_isServedBy (by decide +kernel)
  have trusted := (revalidation_exact .default 1000000 freshFetcher.endpoint freshFetcher.apiKey
    freshFetcher.requestTimeout _ distinct changingRun polling ran served).2.2
  refine ⟨polling, pending, ran, served, flying, asked, handed,
    trusted legible_changing acceptable_changing ?_⟩
  rw [polls]
  decide

/-- A document without a tag, under the version "v2", whose key is not well formed. -/
def spoiled : Document := ⟨none, Text.Utf8.encode "\x7b\"flags\":\x7b\"\":true\x7d,\"version\":\"v2\"\x7d"⟩

/-- The second poll brings the spoiled document, which the client refuses, and the third has begun. -/
def rollbackRun : List PollingAction :=
  steadyRun ++ [.conclude (.ok ⟨200, [], .whole spoiled.body⟩) .half, .client (.elapse 30000000000),
    .client .resume]

/-- The server has gone back to the stable document and answers "not modified" to its version, and the
fetch brings the flags of the spoiled one. -/
theorem rollback_mistaken :
    Document.Distinct (· ∈ [stable, spoiled]) ∧
    ∃ polling pending set, (initial .default 1000000 freshFetcher).run rollbackRun = some polling ∧
      (initial .default 1000000 freshFetcher).ServedFrom (· ∈ [stable, spoiled]) rollbackRun ∧
      polling.pending = some pending ∧ stable.Answers pending.request ⟨304, [], .whole []⟩ ∧
      (pending.handle (.ok ⟨304, [], .whole []⟩)).result = .ok set ∧ stable.flags? ≠ some set.flags := by
  have differ : stable.validator? ≠ spoiled.validator? := by decide +kernel
  have facts : (((initial .default 1000000 freshFetcher).run rollbackRun).bind (·.pending)).map
      (fun pending => (pending.request.ifNoneMatch,
        pending.captured.map fun cached => cached.set.flags.entries.map (·.1))) =
      some (stable.validator?, some [""]) := by
    decide +kernel
  obtain ⟨pending, flying, facts⟩ := Option.map_eq_some_iff.mp facts
  obtain ⟨polling, ran, flying⟩ := Option.bind_eq_some_iff.mp flying
  obtain ⟨asked, kept⟩ := Prod.mk.inj facts
  obtain ⟨cached, captured, keys⟩ := Option.map_eq_some_iff.mp kept
  refine ⟨Document.distinct_pair differ, polling, pending, cached.set, ran,
    servedFrom_of_isServedBy (by decide +kernel), flying, ?_, ?_, ?_⟩
  · unfold Document.Answers
    rw [asked, if_pos ⟨by decide +kernel, rfl⟩]
  · simp [Document.handle_of_notModified, Pending.reuse, captured]
  · intro same
    have own : stable.flags?.map (fun flags => flags.entries.map (·.1)) = some ["a"] := by decide +kernel
    rw [same, Option.map_some, keys] at own
    contradiction

end Polling

end LiveFlags.Http
