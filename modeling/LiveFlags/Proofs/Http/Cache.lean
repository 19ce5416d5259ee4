import LiveFlags.Http.Stages
import LiveFlags.Proofs.Http.HeaderText
import LiveFlags.Proofs.Http.Run
import Mathlib.Data.List.Induction

/-!
# What a fetcher keeps

After any history of fetches, one upon the other, a fetcher keeps the last document of a successful answer
that has come as a whole and could be read, with the entity tag of this answer (`leaves_iff`). No other
end of a fetch changes what is kept, wherever a fetch fails or is dropped (`replacement_of_follow`). So what
a request asks for and what "not modified" brings can be read off the history. What an exchange brings is told
by its answer (`Course.Decodes`), and it is what the fetch makes of it (`Course.decoded?_eq_some_iff`).
-/
namespace LiveFlags.Http

/-- What is to be kept of an exchange: the document of a successful answer, if it can be read, and the entity
tag of the answer, if it is text. -/
def Course.decoded? : Course → Option Cached
  | .complete answer =>
    if answer.isSuccess then
      match answer.body with
      | .whole bytes =>
        match readDocument bytes with
        | .ok document => some ⟨answer.entityTag?, versioned document answer.entityTag?⟩
        | .error _ => none
      | .cut _ => none
    else none
  | .silent | .faulty _ | .headed _ _ => none

/-- An exchange brings something to keep: its answer is a success, all of its body has come, and it can be read as a
document. The flags of this document are kept, under its version or else what the tag of the answer says, with this tag
as it came. -/
inductive Course.Decodes : Course → Cached → Prop
  /-- A successful answer. -/
  | success {answer : Answer} {bytes : List UInt8} {document : FlagSet} {cached : Cached}
    (success : 200 ≤ answer.status.toNat ∧ answer.status.toNat < 300) (came : answer.body = .whole bytes)
    (read : readDocument bytes = .ok document)
    (tag : ∀ text, cached.entityTag = some text ↔ answer.Carries text) (flags : cached.set.flags = document.flags)
    (version : VersionOf document.version cached.entityTag cached.set.version) : Decodes (.complete answer) cached

/-- What a history of fetches leaves to be kept: what the last of them has brought that has brought anything. -/
inductive Leaves (history : List Visit) : Option Cached → Prop
  /-- None has brought anything. -/
  | nothing (unread : ∀ visit ∈ history, ∀ cached, ¬visit.course.Decodes cached) : Leaves history none
  /-- One has, and none after it. -/
  | last {before after : List Visit} {visit : Visit} {cached : Cached} (parts : history = before ++ visit :: after)
    (brought : visit.course.Decodes cached) (unread : ∀ later ∈ after, ∀ other, ¬later.course.Decodes other) :
    Leaves history (some cached)

/-- The status of the answer, if its head has come. -/
def Course.status? : Course → Option UInt16
  | .headed status _ => some status
  | .complete answer => some answer.status
  | .silent | .faulty _ => none

/-- What the last of the answers that could be read has brought. -/
def lastDecoded (history : List Visit) : Option Cached :=
  (history.filterMap fun visit => visit.course.decoded?).getLast?

open Polling (freshFetcher)

variable {pending : Pending} {fetcher : Fetcher} {history : List Visit}

/-- A status from 200 to 299 means success. -/
theorem Answer.isSuccess_iff {answer : Answer} :
    answer.isSuccess = true ↔ 200 ≤ answer.status.toNat ∧ answer.status.toNat < 300 := by
  rw [isSuccess, Bool.and_eq_true, decide_eq_true_iff, decide_eq_true_iff, UInt16.le_iff_toNat_le,
    UInt16.le_iff_toNat_le]
  exact and_congr_right fun _ => Nat.lt_succ_iff.symm

/-- What is read of an exchange is what it brings. -/
theorem Course.decoded?_eq_some_iff {course : Course} {cached : Cached} :
    course.decoded? = some cached ↔ course.Decodes cached := by
  constructor
  · intro read
    unfold decoded? at read
    cases course with
    | silent | faulty | headed => contradiction
    | complete answer =>
      dsimp only at read
      by_cases success : answer.isSuccess = true
      · rw [if_pos success] at read
        cases came : answer.body with
        | cut fault =>
          rw [came] at read
          contradiction
        | whole bytes =>
          rw [came] at read
          dsimp only at read
          cases document : readDocument bytes with
          | error problem =>
            rw [document] at read
            contradiction
          | ok set =>
            rw [document] at read
            obtain rfl := Option.some.inj read
            exact .success (Answer.isSuccess_iff.mp success) came document (fun _ => Answer.carries_iff.symm) rfl
              (versionOf_iff.mpr rfl)
      · rw [if_neg success] at read
        contradiction
  · rintro ⟨success, came, read, tag, flags, version⟩
    rename_i answer bytes document
    have tagged : cached.entityTag = answer.entityTag? :=
      Option.ext fun text => (tag text).trans Answer.carries_iff
    have set : versioned document cached.entityTag = cached.set := by
      rw [versioned, ← versionOf_iff.mp version, ← flags]
    rw [decoded?, if_pos (Answer.isSuccess_iff.mpr success), came]
    dsimp only
    rw [read, ← tagged]
    exact congrArg (fun set => some (Cached.mk cached.entityTag set)) set

/-- Nothing is read of an exchange exactly if it brings nothing. -/
theorem Course.decoded?_eq_none_iff {course : Course} :
    course.decoded? = none ↔ ∀ cached, ¬course.Decodes cached := by
  rw [Option.eq_none_iff_forall_ne_some]
  exact forall_congr' fun cached => not_congr decoded?_eq_some_iff

/-- What a history leaves is what has been read last. -/
theorem leaves_iff {kept : Option Cached} : Leaves history kept ↔ kept = lastDecoded history := by
  have nothing : ∀ visits : List Visit, visits.filterMap (fun visit => visit.course.decoded?) = [] ↔
      ∀ visit ∈ visits, ∀ cached, ¬visit.course.Decodes cached := by
    intro visits
    rw [List.filterMap_eq_nil_iff]
    exact forall₂_congr fun visit _ => Course.decoded?_eq_none_iff
  unfold lastDecoded
  constructor
  · intro leaves
    cases leaves with
    | nothing unread => rw [(nothing history).mpr unread, List.getLast?_nil]
    | @last before after visit cached parts brought unread =>
      rw [parts, List.filterMap_append, List.filterMap_cons, Course.decoded?_eq_some_iff.mpr brought]
      dsimp only
      rw [(nothing after).mpr unread, List.getLast?_concat]
  · intro same
    cases kept with
    | none => exact .nothing ((nothing history).mp (List.getLast?_eq_none_iff.mp same.symm))
    | some cached =>
      obtain ⟨earlier, whole⟩ := List.getLast?_eq_some_iff.mp same.symm
      obtain ⟨before, rest, parts, _, tail⟩ := List.filterMap_eq_append_iff.mp whole
      obtain ⟨unread, visit, after, parts', _, read, done⟩ := List.filterMap_eq_cons_iff.mp tail
      rw [parts', ← List.append_assoc] at parts
      exact .last parts (Course.decoded?_eq_some_iff.mp read) ((nothing after).mp done)

/-- An answer that says "not modified" or that the key is not good enough is no success. -/
theorem isSuccess_of_status {answer : Answer} (status : answer.status = 304 ∨ answer.status = 401 ∨
    answer.status = 403) : answer.isSuccess = false := by
  unfold Answer.isSuccess
  rcases status with same | same | same <;> rw [same] <;> rfl

/-- What a fetch makes of an answer replaces what is kept exactly if a document has been read. -/
theorem replacement_of_handle (answer : Answer) :
    (pending.handle (.ok answer)).replacement = (Course.complete answer).decoded? := by
  unfold Pending.handle Course.decoded?
  dsimp only
  split
  · rename_i notModified
    rw [isSuccess_of_status (.inl notModified)]
    rfl
  · split
    · rename_i unauthorized
      rw [isSuccess_of_status (.inr unauthorized)]
      rfl
    · split
      · unfold Pending.accept
        cases answer.body with
        | cut fault => rfl
        | whole bytes =>
          dsimp only
          cases readDocument bytes with
          | error problem => rfl
          | ok document => rfl
      · rfl

/-- A fetch that ends with the head of its answer leaves what is kept. -/
theorem replacement_of_ended {status : UInt16} {headers : List (String × HeaderValue)} {fetched : Fetched}
    (ended : pending.receive status headers = .ended fetched) : fetched.replacement = none := by
  unfold Pending.receive at ended
  dsimp only at ended
  split at ended
  · obtain rfl := Headed.ended.inj ended
    rfl
  · split at ended
    · obtain rfl := Headed.ended.inj ended
      rfl
    · split at ended
      · contradiction
      · contradiction

/-- What a fetch comes to replaces what is kept exactly if a document has been read, wherever it ends. -/
theorem replacement_of_follow (pending : Pending) (course : Course) :
    (pending.follow course).bind Fetched.replacement = course.decoded? := by
  cases course with
  | silent => rfl
  | faulty fault => rfl
  | headed status headers =>
    unfold Pending.follow
    dsimp only
    split
    · rename_i ended
      exact replacement_of_ended ended
    · rfl
  | complete answer =>
    rw [Pending.follow_complete]
    exact replacement_of_handle answer

/-- After one fetch the fetcher keeps what has been read, or what it kept before. -/
theorem cached_visit (visit : Visit) :
    (fetcher.visit visit).2 =
      { fetcher with cached := visit.course.decoded?.or fetcher.cached } := by
  rw [← replacement_of_follow (fetcher.capture visit.context)]
  unfold Fetcher.visit
  split
  · rename_i dropped
    rw [dropped]
    rfl
  · rename_i fetched came
    rw [came]
    rfl

/-- After any history a fetcher that kept nothing keeps what has been read last. -/
theorem cached_visits (fresh : fetcher.cached = none) :
    (fetcher.visits history).cached = lastDecoded history := by
  -- the last fetch comes first: it has read a document, or everything stays as it was before it
  induction history using List.reverseRecOn with
  | nil => exact fresh
  | append_singleton history visit ih =>
    rw [Fetcher.visits, List.foldl_append, List.foldl_cons, List.foldl_nil, ← Fetcher.visits, cached_visit, ih]
    unfold lastDecoded
    rw [List.filterMap_append]
    cases read : visit.course.decoded? with
    | none => simp [read]
    | some cached => simp [read]

/-- A request asks for an answer only if something is kept and there is something to compare it with: the
tag that is kept, or else the version that is in use. -/
theorem ifNoneMatch_request (context : FetchContext) :
    (fetcher.request context).ifNoneMatch =
      (fetcher.cached.bind fun cached =>
        cached.entityTag.or (context.currentVersion.map EntityTag.quote)).map Text.Utf8.encode := rfl

/-- A fetch whose answer says "not modified" brings what is kept. -/
theorem visit_of_notModified {visit : Visit} (notModified : visit.course.status? = some 304) :
    (fetcher.visit visit).1 = some (fetcher.capture visit.context).reuse := by
  have ended : (fetcher.capture visit.context).follow visit.course =
      some (fetcher.capture visit.context).reuse := by
    cases course : visit.course with
    | silent | faulty =>
      rw [course] at notModified
      contradiction
    | headed status headers =>
      rw [course] at notModified
      obtain rfl := Option.some.inj notModified
      rfl
    | complete answer =>
      rw [course] at notModified
      have status : answer.status = 304 := Option.some.inj notModified
      simp [Pending.follow, Pending.receive, status]
  simp [Fetcher.visit, ended]

/-- A successful answer is taken for its document. -/
theorem handle_of_success {answer : Answer} (success : answer.isSuccess = true) :
    pending.handle (.ok answer) = Pending.accept answer := by
  have plain : ¬(answer.status = 304 ∨ answer.status = 401 ∨ answer.status = 403) := by
    intro status
    rw [isSuccess_of_status status] at success
    contradiction
  obtain ⟨modified, authorized⟩ := not_or.mp plain
  unfold Pending.handle
  dsimp only
  rw [if_neg modified, if_neg authorized, if_pos success]

/-- A document that can be read is what is accepted of a successful answer. -/
theorem accept_of_read {answer : Answer} {bytes : List UInt8} {document : FlagSet}
    (came : answer.body = .whole bytes) (read : readDocument bytes = .ok document) :
    (Pending.accept answer).result = .ok (versioned document answer.entityTag?) ∧
      (Pending.accept answer).replacement =
        some ⟨answer.entityTag?, versioned document answer.entityTag?⟩ := by
  unfold Pending.accept
  rw [came]
  dsimp only
  rw [read]
  exact ⟨rfl, rfl⟩

/-- A version is put between quotes unless it begins like a tag. -/
theorem quote_eq (version : String) : EntityTag.quote version =
    if ['"'] <+: version.toList ∨ ['W', '/'] <+: version.toList then version else "\"" ++ version ++ "\"" := by
  unfold EntityTag.quote
  split
  · rename_i rest begins
    rw [if_pos (.inl ⟨rest, begins.symm⟩)]
  · rename_i rest begins
    rw [if_pos (.inr ⟨rest, begins.symm⟩)]
  · rename_i noQuote noMark
    rw [if_neg]
    · exact String.toList_inj.mp (by simp)
    · rintro (⟨rest, begins⟩ | ⟨rest, begins⟩)
      · exact noQuote rest begins.symm
      · exact noMark rest begins.symm

/-- What a fetcher does after a history of fetches, one upon the other. -/
structure Disciplined (history : List Visit) (fetcher : Fetcher) : Prop where
  /-- It keeps what the history leaves. -/
  kept : Leaves history fetcher.cached
  /-- A fetch that reads no document, because it is dropped, because the transport fails, or because of the
  status or the body of the answer, leaves the fetcher as it is. -/
  unread : ∀ visit, (∀ cached, ¬visit.course.Decodes cached) → (fetcher.visit visit).2 = fetcher
  /-- A request asks for changes only exactly if something is kept that came with a tag, or something is
  kept and a version is in use. -/
  asks : ∀ context, (fetcher.request context).ifNoneMatch.isSome = true ↔
    ∃ cached, Leaves history (some cached) ∧
      (cached.entityTag.isSome = true ∨ context.currentVersion.isSome = true)
  /-- It names the tag as it came. -/
  namesTag : ∀ context cached tag, Leaves history (some cached) → cached.entityTag = some tag →
    (fetcher.request context).ifNoneMatch = some (Text.Utf8.encode tag)
  /-- It names the version that is in use between quotes, if there is no tag. A version that begins like a tag, with a
  quote or with the mark of a weak tag, is named as it is. -/
  namesVersion : ∀ context cached version, Leaves history (some cached) → cached.entityTag = none →
    context.currentVersion = some version →
    (fetcher.request context).ifNoneMatch = some (Text.Utf8.encode
      (if ['"'] <+: version.toList ∨ ['W', '/'] <+: version.toList then version else "\"" ++ version ++ "\""))
  /-- What the server receives is the request. -/
  delivers : ∀ context (route : Route) received, route.delivers (fetcher.request context) = some received →
    received = fetcher.request context
  /-- "Not modified" brings what is kept, as it is, or an error if nothing has ever been read. -/
  notModified : ∀ visit, visit.course.status? = some 304 → ∃ fetched,
    (fetcher.visit visit).1 = some fetched ∧
    (∀ cached, Leaves history (some cached) → fetched.result = .ok cached.set) ∧
    (fetched.result = .error .notModifiedWithoutCache ↔ Leaves history none)
  /-- A successful answer whose document can be read brings what there is to keep of it, the flags of the document
  under a version, and this is kept. -/
  reads : ∀ context answer bytes document, 200 ≤ answer.status.toNat → answer.status.toNat < 300 →
    answer.body = .whole bytes → readDocument bytes = .ok document → ∃ fetched cached,
    Course.Decodes (.complete answer) cached ∧ cached.set.flags = document.flags ∧
    VersionOf document.version cached.entityTag cached.set.version ∧
    (fetcher.visit ⟨context, .complete answer⟩).1 = some fetched ∧ fetched.result = .ok cached.set ∧
    (fetcher.visit ⟨context, .complete answer⟩).2.cached = some cached

/-- A fetcher that has kept nothing is disciplined after every history of fetches. -/
theorem disciplined_visits (endpoint : Url) (apiKey : String) (requestTimeout : Duration)
    (history : List Visit) :
    Disciplined history (Fetcher.visits ⟨endpoint, apiKey, requestTimeout, none⟩ history) := by
  have kept := @cached_visits ⟨endpoint, apiKey, requestTimeout, none⟩ history rfl
  generalize Fetcher.visits ⟨endpoint, apiKey, requestTimeout, none⟩ history = fetcher at kept ⊢
  have leaves : ∀ {cached : Option Cached}, Leaves history cached ↔ fetcher.cached = cached := by
    intro cached
    rw [leaves_iff, kept, eq_comm]
  constructor
  case kept => exact leaves.mpr rfl
  case unread =>
    intro visit unread
    rw [cached_visit, Course.decoded?_eq_none_iff.mpr unread, Option.none_or]
  case asks =>
    intro context
    simp only [ifNoneMatch_request, leaves]
    cases fetcher.cached with
    | none => simp
    | some cached => simp [Option.isSome_or]
  case namesTag =>
    intro context cached tag last tagged
    rw [ifNoneMatch_request, leaves.mp last, Option.bind_some, tagged, Option.some_or, Option.map_some]
  case namesVersion =>
    intro context cached version last untagged inUse
    rw [ifNoneMatch_request, leaves.mp last, Option.bind_some, untagged, Option.none_or, inUse, Option.map_some,
      Option.map_some, quote_eq]
  case delivers =>
    intro context route request received
    unfold Route.delivers at received
    split at received
    · exact (Option.some.inj received).symm
    · contradiction
  case notModified =>
    intro visit notModified
    refine ⟨_, visit_of_notModified notModified, fun cached last => ?_, ?_⟩
    · rw [Pending.reuse, Fetcher.capture, leaves.mp last]
    · rw [leaves, Pending.reuse, Fetcher.capture]
      cases fetcher.cached with
      | none => simp
      | some cached => simp
  case reads =>
    intro context answer bytes document low high came read
    have success := Answer.isSuccess_iff.mpr ⟨low, high⟩
    obtain ⟨result, replacement⟩ := accept_of_read came read
    refine ⟨Pending.accept answer, ⟨answer.entityTag?, versioned document answer.entityTag?⟩,
      .success ⟨low, high⟩ came read (fun _ => Answer.carries_iff.symm) rfl (versionOf_iff.mpr rfl), rfl,
      versionOf_iff.mpr rfl, ?_, result, ?_⟩
    · simp [Fetcher.visit, Pending.follow_complete, handle_of_success success]
    · simp [Fetcher.visit, Pending.follow_complete, handle_of_success success, Fetcher.keep, replacement]

/-- What a poll tells the source while the version "v0" is in use. -/
def inUse : FetchContext := ⟨some "v0", 1, .zero⟩

/-- A server that answers once, under a weak tag. The fetches after that are dropped, with and without the
head of an answer, come upon an error of the server, and bring what is no document. -/
def battered : List Visit :=
  [⟨inUse, .complete ⟨200, [("ETag", Text.Utf8.encode "W/\"a\"")],
      .whole (Text.Utf8.encode "\x7b\"flags\":\x7b\"a\":true\x7d\x7d")⟩⟩,
    ⟨inUse, .headed 200 []⟩, ⟨inUse, .silent⟩, ⟨inUse, .complete ⟨500, [], .cut ⟨"connection closed"⟩⟩⟩,
    ⟨inUse, .complete ⟨200, [], .whole [0x7B]⟩⟩]

/-- A server that answers without a tag, and then with an error. -/
def untagged : List Visit :=
  [⟨inUse, .complete ⟨200, [], .whole (Text.Utf8.encode "\x7b\"flags\":\x7b\"a\":true\x7d\x7d")⟩⟩,
    ⟨inUse, .complete ⟨503, [], .whole []⟩⟩]

/-- The next request names the tag as it came and not the version in use, and "not modified" brings the
document of the one answer, under the version that its tag says. Without a tag the request names the version in
use, between quotes. -/
theorem disciplined_visits_battered :
    (∃ fetcher cached fetched, freshFetcher.visits battered = fetcher ∧
      Leaves battered (some cached) ∧ fetcher.cached = some cached ∧
      cached.entityTag = some "W/\"a\"" ∧ cached.set.version = some "a" ∧
      (cached.set.flags.get? "a").bind FlagValue.asBool? = some true ∧
      (fetcher.request inUse).ifNoneMatch = some (Text.Utf8.encode "W/\"a\"") ∧
      (fetcher.visit ⟨inUse, .headed 304 []⟩).1 = some fetched ∧ fetched.result = .ok cached.set) ∧
    ∃ cached, Leaves untagged (some cached) ∧ cached.entityTag = none ∧
      ((freshFetcher.visits untagged).request inUse).ifNoneMatch = some [0x22, 0x76, 0x30, 0x22] := by
  constructor
  · have facts : (lastDecoded battered).map (fun cached =>
        (cached.entityTag, cached.set.version, (cached.set.flags.get? "a").bind FlagValue.asBool?)) =
        some (some "W/\"a\"", some "a", some true) := by
      decide +kernel
    obtain ⟨cached, last, facts⟩ := Option.map_eq_some_iff.mp facts
    obtain ⟨tagged, facts⟩ := Prod.mk.inj facts
    obtain ⟨version, flag⟩ := Prod.mk.inj facts
    have disciplined := disciplined_visits freshFetcher.endpoint freshFetcher.apiKey
      freshFetcher.requestTimeout battered
    obtain ⟨fetched, came, brings, _⟩ := disciplined.notModified ⟨inUse, .headed 304 []⟩ rfl
    have leaves := leaves_iff.mpr last.symm
    have kept := (leaves_iff.mp disciplined.kept).trans last
    exact ⟨_, cached, fetched, rfl, leaves, kept, tagged, version, flag,
      disciplined.namesTag inUse cached _ leaves tagged, came, brings cached leaves⟩
  · have facts : (lastDecoded untagged).map Cached.entityTag = some none := by decide +kernel
    obtain ⟨cached, last, bare⟩ := Option.map_eq_some_iff.mp facts
    have disciplined := disciplined_visits freshFetcher.endpoint freshFetcher.apiKey
      freshFetcher.requestTimeout untagged
    have quoted : Text.Utf8.encode (if ['"'] <+: "v0".toList ∨ ['W', '/'] <+: "v0".toList then "v0"
        else "\"" ++ "v0" ++ "\"") = [0x22, 0x76, 0x30, 0x22] := by
      decide +kernel
    have leaves := leaves_iff.mpr last.symm
    exact ⟨cached, leaves, bare, quoted ▸ disciplined.namesVersion inUse cached "v0" leaves bare rfl⟩

end LiveFlags.Http
