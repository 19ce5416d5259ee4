import LiveFlags.Proofs.Client.Numbering
import LiveFlags.Proofs.Http.Cache

/-!
# What the end of an exchange means for the poll

An exchange ends with an answer or a fault, and the poll ends with it. What the end says is laid down here
without the fetcher and the client: which set it brings (`Brings`), when it is the fault of the flags
(`Malformed`) and when that of the source, in which words (`Failing`). Every end is one of a well-formed set,
malformed flags and a failing source, and the poll ends accordingly (`judged_conclude`). Only the first
changes what is visible and ends a streak of failures (`accepted_of_changed`).

As long as nobody else publishes, a well-formed set that the fetcher keeps is the visible one
(`Steady`), so "not modified" publishes the visible flags again.
-/
namespace LiveFlags

/-- The failure that a poll has come to, if it has failed. -/
def PollOutcome.failure? : PollOutcome → Option PollFailure
  | .success _ => none
  | .failure reason => some reason

namespace Http

/-- The set that the end of an exchange brings, given what was kept when the fetch began. -/
inductive Brings (captured : Option Cached) : Outcome → FlagSet → Prop where
  /-- A successful answer brings the document in its body. -/
  | document (answer : Answer) (bytes : List UInt8) (document : FlagSet) (low : 200 ≤ answer.status)
      (high : answer.status ≤ 299) (came : answer.body = .whole bytes) (read : readDocument bytes = .ok document) :
    Brings captured (.ok answer) (versioned document answer.entityTag?)
  /-- "Not modified" brings what was kept. -/
  | unchanged (answer : Answer) (cached : Cached) (notModified : answer.status = 304)
      (kept : captured = some cached) :
    Brings captured (.ok answer) cached.set

/-- The end of an exchange brings a set that passes the check. -/
def Accepted (captured : Option Cached) (ended : Outcome) : Prop :=
  ∃ set, Brings captured ended set ∧ set.validate = .ok ()

/-- The end of an exchange should bring flags and brings none that pass the check. -/
inductive Malformed (captured : Option Cached) : Outcome → Prop where
  /-- The body of a successful answer is no document. -/
  | undecodable (answer : Answer) (bytes : List UInt8) (problem : Json.Problem) (low : 200 ≤ answer.status)
      (high : answer.status ≤ 299) (came : answer.body = .whole bytes)
      (unread : readDocument bytes = .error problem) :
    Malformed captured (.ok answer)
  /-- Nothing has been modified, and nothing was kept. -/
  | nothingKept (answer : Answer) (notModified : answer.status = 304) (nothing : captured = none) :
    Malformed captured (.ok answer)
  /-- The set does not pass the check. -/
  | refused (ended : Outcome) (set : FlagSet) (error : PayloadError) (brings : Brings captured ended set)
      (bad : set.validate = .error error) :
    Malformed captured ended

/-- The source has failed, in words. -/
inductive Failing : Outcome → String → Prop where
  /-- There is no answer. -/
  | faulty (fault : TransportFault) :
    Failing (.error fault) ("transport error: request failed: " ++ fault.text)
  /-- The connection ended in the middle of a successful answer. -/
  | cutShort (answer : Answer) (fault : TransportFault) (low : 200 ≤ answer.status) (high : answer.status ≤ 299)
      (short : answer.body = .cut fault) :
    Failing (.ok answer) ("transport error: request failed: " ++ fault.text)
  /-- The server refuses the key. -/
  | unauthorized (answer : Answer) (refused : answer.status = 401 ∨ answer.status = 403) :
    Failing (.ok answer) "authentication failed"
  /-- The answer has any other status that is no success; its body is the text of the message, and an empty
  text stands for a body that did not come as a whole. -/
  | status (answer : Answer) (text : String) (plain : answer.status < 200 ∨ 299 < answer.status)
      (modified : answer.status ≠ 304) (authorized : answer.status ≠ 401 ∧ answer.status ≠ 403)
      (whole : ∀ bytes, answer.body = .whole bytes → text = Text.Utf8.decodeLossy bytes)
      (short : ∀ fault, answer.body = .cut fault → text = "") :
    Failing (.ok answer) s!"source returned status {answer.status}: {text}"

variable {pending : Pending} {captured : Option Cached} {ended : Outcome} {set : FlagSet} {answer : Answer}

section Ends

/-- An answer is a success from 200 to 299. -/
theorem isSuccess_iff : answer.isSuccess = true ↔ 200 ≤ answer.status ∧ answer.status ≤ 299 := by
  simp [Answer.isSuccess]

/-- The set that the end of an exchange brings is what the fetch gives. -/
theorem sourceResult_of_brings (brings : Brings pending.captured ended set) :
    (pending.handle ended).sourceResult = .ok set := by
  cases brings with
  | document answer bytes document low high came read =>
    rw [handle_of_success (isSuccess_iff.mpr ⟨low, high⟩), Fetched.sourceResult, (accept_of_read came read).1]
  | unchanged answer cached notModified kept =>
    simp [Pending.handle, notModified, Pending.reuse, kept, Fetched.sourceResult]

/-- A source that fails makes the poll fail in its words. -/
theorem sourceResult_of_failing {text : String} (failing : Failing ended text) :
    ∃ error, (pending.handle ended).sourceResult = .error error ∧
      PollFailure.ofFetchError error = .fetch text := by
  cases failing with
  | faulty fault => exact ⟨_, rfl, rfl⟩
  | cutShort answer fault low high short =>
    rw [handle_of_success (isSuccess_iff.mpr ⟨low, high⟩), Pending.accept, short]
    exact ⟨_, rfl, rfl⟩
  | unauthorized answer refused =>
    have modified : answer.status ≠ 304 := by
      rcases refused with same | same
      · simp [same]
      · simp [same]
    rw [Pending.handle, if_neg modified, if_pos refused]
    exact ⟨_, rfl, rfl⟩
  | status answer text plain modified authorized whole short =>
    have unsuccessful : ¬answer.isSuccess = true := by
      rw [isSuccess_iff, UInt16.le_iff_toNat_le, UInt16.le_iff_toNat_le]
      rw [UInt16.lt_iff_toNat_lt, UInt16.lt_iff_toNat_lt] at plain
      omega
    have body : text = answer.lossyText := by
      cases came : answer.body with
      | cut fault => simp [Answer.lossyText, came, short fault came]
      | whole bytes => simp [Answer.lossyText, came, whole bytes came]
    rw [Pending.handle, if_neg modified, if_neg (not_or.mpr authorized), if_neg unsuccessful, body]
    exact ⟨_, rfl, rfl⟩

/-- Every end of an exchange brings a set that passes the check, or is malformed, or is the failure of the
source. -/
theorem ends_cases (captured : Option Cached) (ended : Outcome) :
    Accepted captured ended ∨ Malformed captured ended ∨ ∃ text, Failing ended text := by
  have checked : ∀ set, Brings captured ended set →
      Accepted captured ended ∨ Malformed captured ended ∨ ∃ text, Failing ended text := by
    intro set brings
    cases passed : set.validate with
    | ok => exact .inl ⟨set, brings, passed⟩
    | error error => exact .inr (.inl (.refused ended set error brings passed))
  cases ended with
  | error fault => exact .inr (.inr ⟨_, .faulty fault⟩)
  | ok answer =>
    by_cases notModified : answer.status = 304
    · cases kept : captured with
      | none => exact .inr (.inl (.nothingKept answer notModified rfl))
      | some cached => exact kept ▸ checked cached.set (.unchanged answer cached notModified kept)
    by_cases refused : answer.status = 401 ∨ answer.status = 403
    · exact .inr (.inr ⟨_, .unauthorized answer refused⟩)
    by_cases low : 200 ≤ answer.status
    · by_cases high : answer.status ≤ 299
      · cases came : answer.body with
        | cut fault => exact .inr (.inr ⟨_, .cutShort answer fault low high came⟩)
        | whole bytes =>
          cases read : readDocument bytes with
          | error problem => exact .inr (.inl (.undecodable answer bytes problem low high came read))
          | ok document => exact checked _ (.document answer bytes document low high came read)
      · exact .inr (.inr ⟨_, .status answer answer.lossyText (.inr (UInt16.not_le.mp high)) notModified
          (not_or.mp refused) (fun bytes came => by simp [Answer.lossyText, came])
          fun _ short => by simp [Answer.lossyText, short]⟩)
    · exact .inr (.inr ⟨_, .status answer answer.lossyText (.inl (UInt16.not_le.mp low)) notModified
        (not_or.mp refused) (fun bytes came => by simp [Answer.lossyText, came])
        fun _ short => by simp [Answer.lossyText, short]⟩)

end Ends

section Verdicts

/-- What the end of an exchange makes of the poll of a client. -/
def verdict (client : Client) (pending : Pending) (ended : Outcome) : PollOutcome :=
  client.outcome (pending.handle ended).sourceResult

/-- A set that passes the check is a success. -/
theorem verdict_of_brings (client : Client) (brings : Brings pending.captured ended set)
    (passed : set.validate = .ok ()) :
    verdict client pending ended = .success (.ofSet set client.nextSequence client.wall) := by
  simp [verdict, sourceResult_of_brings brings, Client.outcome, passed]

/-- Malformed flags make the poll fail for their sake. -/
theorem verdict_of_malformed (client : Client) (malformed : Malformed pending.captured ended) :
    ∃ text, verdict client pending ended = .failure (.invalidPayload text) := by
  cases malformed with
  | undecodable answer bytes problem low high came unread =>
    rw [verdict, handle_of_success (isSuccess_iff.mpr ⟨low, high⟩), Pending.accept, came]
    dsimp only
    rw [unread]
    exact ⟨_, rfl⟩
  | nothingKept answer notModified nothing =>
    rw [verdict, Pending.handle, if_pos notModified, Pending.reuse, nothing]
    exact ⟨_, rfl⟩
  | refused ended set error brings bad =>
    simp [verdict, sourceResult_of_brings brings, Client.outcome, bad]

/-- A source that fails makes the poll fail for its sake. -/
theorem verdict_of_failing (client : Client) {text : String} (failing : Failing ended text) :
    verdict client pending ended = .failure (.fetch text) := by
  obtain ⟨error, failed, words⟩ := sourceResult_of_failing failing
  rw [verdict, failed, Client.outcome, words]

/-- What the end of an exchange says decides what the poll comes to. -/
structure Decides (captured : Option Cached) (ended : Outcome) (outcome : PollOutcome) : Prop where
  /-- The poll succeeds exactly if a set has come that passes the check. -/
  succeeds : outcome.isSuccess = true ↔ Accepted captured ended
  /-- It fails for the sake of the flags exactly if they are malformed. -/
  invalid : outcome.failure?.map PollFailure.reason = some "invalid_payload" ↔ Malformed captured ended
  /-- It fails for the sake of the source exactly if the source has failed. -/
  failed : outcome.failure?.map PollFailure.reason = some "fetch_error" ↔ ∃ text, Failing ended text
  /-- The words are those of the source. -/
  words : ∀ text, Failing ended text → outcome = .failure (.fetch text)
  /-- No two of the three are the case at once, -/
  exclusive : ¬(Accepted captured ended ∧ Malformed captured ended) ∧
    ∀ text, Failing ended text → ¬Accepted captured ended ∧ ¬Malformed captured ended
  /-- and one of them is. -/
  exhaustive : Accepted captured ended ∨ Malformed captured ended ∨ ∃ text, Failing ended text

/-- The poll comes to what the end of the exchange says, whatever the client has seen before. -/
theorem decides_verdict (client : Client) (pending : Pending) (ended : Outcome) :
    Decides pending.captured ended (verdict client pending ended) := by
  have accepted : Accepted pending.captured ended →
      ∃ snapshot, verdict client pending ended = .success snapshot :=
    fun ⟨_, brings, passed⟩ => ⟨_, verdict_of_brings client brings passed⟩
  have malformed : Malformed pending.captured ended →
      ∃ text, verdict client pending ended = .failure (.invalidPayload text) := verdict_of_malformed client
  have failing : ∀ text, Failing ended text → verdict client pending ended = .failure (.fetch text) :=
    fun _ => verdict_of_failing client
  have exhaustive := ends_cases pending.captured ended
  generalize verdict client pending ended = outcome at accepted malformed failing
  -- the three implications have different conclusions, and one of the three premises holds
  refine ⟨⟨fun success => ?_, fun held => ?_⟩, ⟨fun reason => ?_, fun held => ?_⟩,
    ⟨fun reason => ?_, fun ⟨text, held⟩ => ?_⟩, failing, ⟨fun ⟨held, held'⟩ => ?_,
    fun text held => ⟨fun held' => ?_, fun held' => ?_⟩⟩, exhaustive⟩
  · rcases exhaustive with held | held | ⟨text, held⟩
    · exact held
    · obtain ⟨text, rfl⟩ := malformed held
      contradiction
    · rw [failing text held] at success
      contradiction
  · obtain ⟨snapshot, rfl⟩ := accepted held
    rfl
  · rcases exhaustive with held | held | ⟨text, held⟩
    · obtain ⟨snapshot, rfl⟩ := accepted held
      contradiction
    · exact held
    · simp [failing text held, PollOutcome.failure?, PollFailure.reason] at reason
  · obtain ⟨text, rfl⟩ := malformed held
    rfl
  · rcases exhaustive with held | held | held
    · obtain ⟨snapshot, rfl⟩ := accepted held
      contradiction
    · obtain ⟨text, rfl⟩ := malformed held
      simp [PollOutcome.failure?, PollFailure.reason] at reason
    · exact held
  · rw [failing text held]
    rfl
  · obtain ⟨snapshot, rfl⟩ := accepted held
    obtain ⟨text, other⟩ := malformed held'
    contradiction
  · obtain ⟨snapshot, rfl⟩ := accepted held'
    exact absurd (failing text held) (by simp)
  · obtain ⟨text', rfl⟩ := malformed held'
    exact absurd (failing text held) (by simp)

/-- A poll succeeds with the set that has come, or it fails because no set has come that passes the check. -/
theorem verdict_cases (client : Client) (pending : Pending) (ended : Outcome) :
    (∃ set, Brings pending.captured ended set ∧ set.validate = .ok () ∧
      verdict client pending ended = .success (.ofSet set client.nextSequence client.wall)) ∨
    ∃ failure, ¬Accepted pending.captured ended ∧ verdict client pending ended = .failure failure := by
  have succeeds := (decides_verdict client pending ended).succeeds
  by_cases accepted : Accepted pending.captured ended
  · obtain ⟨set, brings, passed⟩ := accepted
    exact .inl ⟨set, brings, passed, verdict_of_brings client brings passed⟩
  · cases came : verdict client pending ended with
    | success snapshot => exact absurd (succeeds.mp (by rw [came]; rfl)) accepted
    | failure failure => exact .inr ⟨failure, accepted, rfl⟩

end Verdicts

section Steps

namespace Polling

variable {polling next : Polling} {action : PollingAction} {actions : List PollingAction}

/-- A failure lengthens a streak of failures, or leaves it at its greatest length. -/
theorem streak_recordFailure (tracker : Tracker) (failure : PollFailure) :
    tracker.consecutiveFailures ≤ (tracker.recordFailure failure).consecutiveFailures ∧
      0 < (tracker.recordFailure failure).consecutiveFailures := by
  have small := tracker.consecutiveFailures.toNat_lt
  rw [UInt32.le_iff_toNat_le, UInt32.lt_iff_toNat_lt]
  simp only [Tracker.recordFailure]
  split
  · rw [UInt32.toNat_add, UInt32.toNat_one, Nat.mod_eq_of_lt (by omega)]
    exact ⟨Nat.le_succ _, Nat.succ_pos _⟩
  · exact ⟨Nat.le_refl _, by rw [UInt32.toNat_zero]; omega⟩

/-- What does not come from the source does not end a streak of failures. -/
theorem streak_le_step {client next : Client} {own : Action} (inner : isFromSource own = false)
    (stepped : client.step own = some next) :
    client.tracker.consecutiveFailures ≤ next.tracker.consecutiveFailures := by
  cases Client.transition_of_step stepped with
  | answers | overflows => simp [isFromSource] at inner
  | cutsOff draw started cutOff fetching late => exact (streak_recordFailure _ _).1
  | _ => exact UInt32.le_refl _

/-- The end of its exchange ends the poll in flight, if a sequence is left for the next snapshot. -/
theorem conclude_of_fetching {started cutOff : Instant} {sequence : UInt64}
    (flying : polling.pending = some pending) (fetching : polling.client.task = .fetching started cutOff)
    (counts : polling.client.sequenceAfter? (verdict polling.client pending ended) = some sequence) (draw : Draw) :
    polling.step (.conclude ended draw) =
      some ⟨{ (polling.client.logging (pending.handle ended).events).afterPoll
          (verdict polling.client pending ended) started draw with nextSequence := sequence },
        polling.fetcher.keep (pending.handle ended), none⟩ := by
  have answered : (polling.client.logging (pending.handle ended).events).step
      (.answer (pending.handle ended).sourceResult draw) =
        some { (polling.client.logging (pending.handle ended).events).afterPoll
          (verdict polling.client pending ended) started draw with nextSequence := sequence } :=
    @Client.answered?_eq (polling.client.logging (pending.handle ended).events) _ _ _ _ fetching counts draw
  simp only [step, conclude?, flying, Fetcher.conclude, Option.bind_eq_bind, Option.bind_some, answered]
  rfl

/-- The end of an exchange that brings a snapshot for the last sequence ends the task. -/
theorem conclude_of_last {started cutOff : Instant} (flying : polling.pending = some pending)
    (fetching : polling.client.task = .fetching started cutOff)
    (last : polling.client.sequenceAfter? (verdict polling.client pending ended) = none) (draw : Draw) :
    polling.step (.conclude ended draw) =
      some ⟨{ polling.client.logging (pending.handle ended).events with task := .ended (.panicked true) },
        polling.fetcher.keep (pending.handle ended), none⟩ := by
  have answered : (polling.client.logging (pending.handle ended).events).step
      (.answer (pending.handle ended).sourceResult draw) =
        some { polling.client.logging (pending.handle ended).events with task := .ended (.panicked true) } :=
    @Client.answered?_eq_of_last (polling.client.logging (pending.handle ended).events) _ _ _ fetching last draw
  simp only [step, conclude?, flying, Fetcher.conclude, Option.bind_eq_bind, Option.bind_some, answered]
  rfl

/-- An exchange ends while its fetch is in flight. -/
theorem fetching_of_conclude {draw : Draw} (stepped : polling.step (.conclude ended draw) = some next) :
    ∃ pending started cutOff, polling.pending = some pending ∧
      polling.client.task = .fetching started cutOff := by
  obtain ⟨pending, flying, concluded⟩ := Option.bind_eq_some_iff.mp stepped
  obtain ⟨client, answered, _⟩ := Option.bind_eq_some_iff.mp concluded
  cases Client.transition_of_step answered with
  | answers _ _ started cutOff fetching | overflows _ _ started cutOff fetching =>
    exact ⟨pending, started, cutOff, flying, fetching⟩

/-- The client polls through a fetcher that had kept nothing at first, and nobody else has published. -/
def Own (polling : Polling) : Prop :=
  ∃ config timerStep fetcher actions, fetcher.cached = none ∧
    (∀ snapshot, .client (.publish snapshot) ∉ actions) ∧
    (initial config timerStep fetcher).run actions = some polling

/-- A well-formed set that the fetcher keeps is the visible one, as long as the sequences last. -/
def Mirrors (polling : Polling) : Prop :=
  polling.client.snapshot.sequence.toNat + 1 < greatestSequence →
    ∀ cached, polling.fetcher.cached = some cached → cached.set.validate = .ok () →
      polling.client.snapshot.flags = cached.set.flags ∧ polling.client.snapshot.version = cached.set.version

/-- What a client that publishes alone keeps. -/
structure Steady (polling : Polling) : Prop where
  /-- The fetch in flight has captured what the fetcher keeps. -/
  flying : Flying polling
  /-- The next snapshot is in sequence. -/
  ordered : polling.client.InSequence
  /-- What the fetcher keeps is visible. -/
  mirrors : Mirrors polling

/-- What the fetcher keeps after a set has come is this set. -/
theorem cached_keep_of_brings {fetcher : Fetcher} (same : pending.captured = fetcher.cached)
    (brings : Brings pending.captured ended set) :
    ∃ tag, (fetcher.keep (pending.handle ended)).cached = some ⟨tag, set⟩ := by
  cases brings with
  | document answer bytes document low high came read =>
    rw [handle_of_success (isSuccess_iff.mpr ⟨low, high⟩), Fetcher.keep, (accept_of_read came read).2]
    exact ⟨_, rfl⟩
  | unchanged answer cached notModified kept =>
    rw [Pending.handle, if_pos notModified, Fetcher.keep, ← same, kept]
    exact ⟨_, rfl⟩

/-- A poll that does not succeed leaves what is visible, and what the fetcher keeps of well-formed sets. -/
theorem mirrors_of_failure {failure : PollFailure} (mirrors : Mirrors polling)
    (failed : verdict polling.client pending ended = .failure failure) (events : List Event)
    (started : Instant) (draw : Draw) (sequence : UInt64) (after : Option Pending) :
    Mirrors ⟨{ (polling.client.logging events).afterPoll (.failure failure) started draw with
        nextSequence := sequence },
      polling.fetcher.keep (pending.handle ended), after⟩ := by
  intro room cached found passed
  rcases cached_keep found with before | ⟨answer, _, _, _, got⟩
  · exact mirrors room cached before passed
  · have came : (pending.handle ended).sourceResult = .ok cached.set := by rw [Fetched.sourceResult, got]
    simp [verdict, came, Client.outcome, passed] at failed

/-- A poll that succeeds makes the set visible that the fetcher keeps. -/
theorem mirrors_of_success {started cutOff : Instant} {draw : Draw} (steady : Steady polling)
    (flying : polling.pending = some pending) (fetching : polling.client.task = .fetching started cutOff)
    (brings : Brings pending.captured ended set) (events : List Event) (sequence : UInt64)
    (after : Option Pending) :
    Mirrors ⟨{ (polling.client.logging events).afterPoll
          (.success (.ofSet set polling.client.nextSequence polling.client.wall)) started draw with
        nextSequence := sequence },
      polling.fetcher.keep (pending.handle ended), after⟩ := by
  intro _ cached found _
  have captured := (ifNoneMatch_of_flying steady.flying flying).1
  obtain ⟨tag, kept⟩ := cached_keep_of_brings captured brings
  obtain rfl := Option.some.inj (found.symm.trans kept)
  have present : polling.client.task ≠ .absent := by simp [fetching]
  have accepted := steady.ordered.accepts present set polling.client.wall
  simp only [Client.snapshot, Client.storeAfter, Client.logging, Store.publish_of_accepts accepted]
  exact ⟨rfl, rfl⟩

/-- Every step of a client that publishes alone keeps the fetcher and the store in step. -/
theorem steady_step (alone : ∀ snapshot, action ≠ .client (.publish snapshot))
    (stepped : polling.step action = some next) (steady : Steady polling) : Steady next := by
  have flying := flying_step stepped steady.flying
  rcases step_cases stepped with ⟨own, client, rfl, inner, went, rfl⟩ | ⟨ended, draw, _, _, rfl, _, _, _⟩
  · have apart : ∀ snapshot, own ≠ .publish snapshot := fun snapshot same => alone snapshot (congrArg _ same)
    have visible : client.store = polling.client.store := store_step went inner apart
    refine ⟨flying, Client.inSequence_step apart went steady.ordered, ?_⟩
    have mirrors := steady.mirrors
    unfold Mirrors Client.snapshot at mirrors ⊢
    rw [← visible] at mirrors
    exact mirrors
  · obtain ⟨pending, started, cutOff, waits, fetching⟩ := fetching_of_conclude stepped
    cases counts : polling.client.sequenceAfter? (verdict polling.client pending ended) with
    | none =>
      -- the visible sequence is the last one but one, so nothing is asked of the set that is kept
      obtain rfl := Option.some.inj (stepped.symm.trans (conclude_of_last waits fetching counts draw))
      have ordered := steady.ordered (by simp [fetching])
      refine ⟨flying, fun _ => ordered, fun room => ?_⟩
      have last := Client.nextSequence_of_last counts
      have follows : polling.client.nextSequence.toNat = polling.client.snapshot.sequence.toNat + 1 := ordered
      exact absurd (follows ▸ last) (Nat.ne_of_lt room)
    | some sequence =>
      obtain rfl := Option.some.inj (stepped.symm.trans (conclude_of_fetching waits fetching counts draw))
      refine ⟨flying, ?_, ?_⟩
      · refine Client.inSequence_finish steady.ordered fetching _ draw counts fun snapshot came => ?_
        obtain ⟨set, _, _, same⟩ := Client.success_of_outcome came
        exact ⟨set, same⟩
      · rcases verdict_cases polling.client pending ended with ⟨set, brings, _, came⟩ | ⟨failure, _, came⟩
        · rw [came]
          exact mirrors_of_success steady waits fetching brings _ _ _
        · have left := mirrors_of_failure steady.mirrors came (pending.handle ended).events started draw
            sequence none
          rw [came]
          exact left

/-- A client that publishes alone keeps the fetcher and the store in step. -/
theorem Own.steady (own : Own polling) : Steady polling := by
  obtain ⟨config, timerStep, fetcher, actions, fresh, alone, ran⟩ := own
  have start : Steady (initial config timerStep fetcher) := by
    refine ⟨fun pending none => ?_, Client.inSequence_initial config timerStep, fun _ cached kept => ?_⟩
    · contradiction
    · rw [initial, fresh] at kept
      contradiction
  have apart : ∀ action ∈ actions, ∀ snapshot, action ≠ .client (.publish snapshot) :=
    fun action member snapshot same => alone snapshot (same ▸ member)
  exact run_keeps Steady (fun alone stepped steady => steady_step alone stepped steady)
    (along_of_forall apart) ran start

/-- A client that publishes alone gives the next snapshot the sequence after the visible one. -/
theorem Own.follows {started cutOff : Instant} (own : Own polling)
    (fetching : polling.client.task = .fetching started cutOff) :
    polling.client.nextSequence = polling.client.snapshot.sequence + 1 ∧
      polling.client.snapshot.sequence < polling.client.nextSequence := by
  have following : polling.client.nextSequence.toNat = polling.client.snapshot.sequence.toNat + 1 :=
    own.steady.ordered (by simp [fetching])
  have bound := polling.client.nextSequence.toNat_lt
  refine ⟨UInt64.toNat_inj.mp ?_, ?_⟩
  · rw [following, UInt64.toNat_add]
    exact (Nat.mod_eq_of_lt (following ▸ bound)).symm
  · rw [UInt64.lt_iff_toNat_lt, following]
    exact Nat.lt_succ_self _

/-- A set that passes the check is published under the next sequence, if that is higher than the visible
one. -/
theorem published_of_brings {client : Client} (brings : Brings pending.captured ended set)
    (passed : set.validate = .ok ()) (higher : client.snapshot.sequence < client.nextSequence) :
    client.storeAfter (verdict client pending ended) =
        ⟨.ofSet set client.nextSequence client.wall, client.nextSequence, client.store.taken + 1⟩ ∧
      client.trackerAfter (verdict client pending ended) =
        client.tracker.recordSuccess set.flags.size client.wall client.now := by
  have taken : client.store.accepts (.ofSet set client.nextSequence client.wall) = true := decide_eq_true higher
  rw [verdict_of_brings client brings passed]
  exact ⟨Store.publish_of_accepts taken, if_pos taken⟩

/-- What the end of the exchange of the fetch in flight makes of a poll. -/
structure Judged (polling next : Polling) (pending : Pending) (ended : Outcome) : Prop where
  /-- What the end says decides what the poll comes to. -/
  decides : Decides pending.captured ended (verdict polling.client pending ended)
  /-- The snapshot of a success has the next sequence and ends the streak of failures, if another sequence is
  left and the store takes it. -/
  publishes : ∀ set, Brings pending.captured ended set → set.validate = .ok () →
    polling.client.snapshot.sequence < polling.client.nextSequence →
    polling.client.nextSequence.toNat < greatestSequence →
    next.client.snapshot = .ofSet set polling.client.nextSequence polling.client.wall ∧
    next.client.stats.consecutiveFailures = 0 ∧ next.client.stats.lastError = none
  /-- If no other sequence is left a success ends the task, and nothing else comes of it. -/
  exhausts : Accepted pending.captured ended → polling.client.nextSequence.toNat = greatestSequence →
    next.client.task = .ended (.panicked true) ∧ next.client.store = polling.client.store ∧
    next.client.tracker = polling.client.tracker
  /-- A failure leaves what is visible. It is counted in the streak, and its kind is told. -/
  keeps : ∀ failure, verdict polling.client pending ended = .failure failure →
    next.client.store = polling.client.store ∧ 0 < next.client.stats.consecutiveFailures ∧
    polling.client.stats.consecutiveFailures ≤ next.client.stats.consecutiveFailures ∧
    next.client.stats.lastError = some failure.reason
  /-- If the client publishes alone, the next sequence follows the visible one, so the store takes the snapshot of
  every success. -/
  follows : Own polling → polling.client.nextSequence = polling.client.snapshot.sequence + 1 ∧
    polling.client.snapshot.sequence < polling.client.nextSequence
  /-- "Not modified" then publishes the visible flags again, under the next sequence. -/
  republishes : Own polling → polling.client.nextSequence.toNat < greatestSequence →
    ∀ answer, ended = .ok answer → answer.status = 304 → Accepted pending.captured ended →
    next.client.snapshot.flags = polling.client.snapshot.flags ∧
    next.client.snapshot.version = polling.client.snapshot.version ∧
    next.client.snapshot.sequence = polling.client.snapshot.sequence + 1

/-- The end of an exchange that brings a snapshot for the last sequence ends the poll in flight as it says. -/
theorem judged_of_last {started cutOff : Instant} (flying : polling.pending = some pending)
    (fetching : polling.client.task = .fetching started cutOff)
    (last : polling.client.sequenceAfter? (verdict polling.client pending ended) = none) (draw : Draw) :
    ∃ next, polling.step (.conclude ended draw) = some next ∧ Judged polling next pending ended := by
  have greatest := Client.nextSequence_of_last last
  refine ⟨_, conclude_of_last flying fetching last draw, decides_verdict polling.client pending ended,
    fun _ _ _ _ room => ?_, fun _ _ => ⟨rfl, rfl, rfl⟩, fun failure came => ?_, fun own => own.follows fetching,
    fun _ room => ?_⟩
  · exact absurd greatest (Nat.ne_of_lt room)
  · rw [came] at last
    contradiction
  · exact absurd greatest (Nat.ne_of_lt room)

/-- The end of its exchange ends the poll in flight as it says. -/
theorem judged_conclude {started cutOff : Instant} (flying : polling.pending = some pending)
    (fetching : polling.client.task = .fetching started cutOff) (ended : Outcome) (draw : Draw) :
    ∃ next, polling.step (.conclude ended draw) = some next ∧ Judged polling next pending ended := by
  cases counts : polling.client.sequenceAfter? (verdict polling.client pending ended) with
  | none => exact judged_of_last flying fetching counts draw
  | some sequence =>
  refine ⟨_, conclude_of_fetching flying fetching counts draw, ?_⟩
  refine ⟨decides_verdict polling.client pending ended, fun set brings passed higher _ => ?_,
    fun ⟨set, brings, passed⟩ greatest => ?_, fun failure came => ?_, fun own => own.follows fetching,
    fun own room answer answered notModified accepted => ?_⟩
  · have published := published_of_brings brings passed higher
    refine ⟨congrArg Store.current published.1, ?_⟩
    have tracker := published.2
    exact ⟨congrArg Tracker.consecutiveFailures tracker, congrArg Tracker.lastError tracker⟩
  · rw [verdict_of_brings polling.client brings passed] at counts
    exact absurd greatest (Nat.ne_of_lt (Client.toNat_of_successor? counts).1)
  · rw [came]
    obtain ⟨longer, positive⟩ := streak_recordFailure polling.client.tracker failure
    exact ⟨rfl, positive, longer, rfl⟩
  · obtain ⟨set, brings, passed⟩ := accepted
    obtain ⟨following, higher⟩ := own.follows fetching
    have published := congrArg Store.current (published_of_brings brings passed higher).1
    have captured := (ifNoneMatch_of_flying own.steady.flying flying).1
    cases brings with
    | document answer' bytes document low high came read =>
      obtain rfl := Except.ok.inj answered
      rw [notModified] at high
      exact absurd high (by decide)
    | unchanged answer' cached _ kept =>
      have ordered : polling.client.nextSequence.toNat = polling.client.snapshot.sequence.toNat + 1 :=
        own.steady.ordered (by simp [fetching])
      obtain ⟨flags, version⟩ := own.steady.mirrors (ordered ▸ room) cached (captured.symm.trans kept) passed
      rw [flags, version, ← following]
      exact ⟨congrArg Snapshot.flags published, congrArg Snapshot.version published,
        congrArg Snapshot.sequence published⟩

/-- Only the end of an exchange that brings a well-formed set changes what is visible or shortens the streak
of failures, whatever else happens, as long as nobody else publishes. -/
theorem accepted_of_changed (alone : ∀ snapshot, action ≠ .client (.publish snapshot))
    (stepped : polling.step action = some next)
    (changed : next.client.snapshot ≠ polling.client.snapshot ∨
      next.client.stats.consecutiveFailures < polling.client.stats.consecutiveFailures) :
    ∃ pending ended draw, polling.pending = some pending ∧ action = .conclude ended draw ∧
      Accepted pending.captured ended := by
  rcases step_cases stepped with ⟨own, client, rfl, inner, went, rfl⟩ | ⟨ended, draw, _, _, rfl, _, _, _⟩
  · have apart : ∀ snapshot, own ≠ .publish snapshot := fun snapshot same => alone snapshot (congrArg _ same)
    rcases changed with visible | shorter
    · exact absurd (congrArg Store.current (store_step went inner apart)) visible
    · exact absurd (streak_le_step inner went) (UInt32.not_le.mpr shorter)
  · obtain ⟨pending, started, cutOff, waits, fetching⟩ := fetching_of_conclude stepped
    obtain ⟨next', stepped', judged⟩ := judged_conclude waits fetching ended draw
    obtain rfl := Option.some.inj (stepped.symm.trans stepped')
    refine ⟨pending, ended, draw, waits, rfl, ?_⟩
    rcases verdict_cases polling.client pending ended with ⟨set, brings, passed, _⟩ | ⟨failure, _, came⟩
    · exact ⟨set, brings, passed⟩
    · obtain ⟨same, _, longer, _⟩ := judged.keeps failure came
      rcases changed with visible | shorter
      · exact absurd (congrArg Store.current same) visible
      · exact absurd longer (UInt32.not_le.mpr shorter)

/-- Whatever the fetcher keeps and whatever the client has seen, the end of the exchange in flight ends the poll
as it says, in one of three ways that exclude each other; and nothing but a well-formed set that comes with
such an end changes what is visible or shortens the streak of failures. -/
theorem every_end_judged (polling : Polling) (pending : Pending) (started cutOff : Instant)
    (flying : polling.pending = some pending) (fetching : polling.client.task = .fetching started cutOff)
    (ended : Outcome) (draw : Draw) :
    (∃ next, polling.step (.conclude ended draw) = some next ∧ Judged polling next pending ended) ∧
    ∀ action next, (∀ snapshot, action ≠ .client (.publish snapshot)) → polling.step action = some next →
      (next.client.snapshot ≠ polling.client.snapshot ∨
        next.client.stats.consecutiveFailures < polling.client.stats.consecutiveFailures) →
      ∃ pending ended draw, polling.pending = some pending ∧ action = .conclude ended draw ∧
        Accepted pending.captured ended :=
  ⟨judged_conclude flying fetching ended draw,
    fun _ _ alone stepped changed => accepted_of_changed alone stepped changed⟩

/-- The first poll has brought one flag, and the second is in flight. -/
def secondLook : List PollingAction :=
  [.client (.call 0 .start), .client .takeLock, .client .resume,
    .conclude (.ok ⟨200, [("ETag", Text.Utf8.encode "\"v1\"")],
      .whole (Text.Utf8.encode "\x7b\"flags\":\x7b\"a\":true\x7d\x7d")⟩) .half,
    .client (.elapse 30000000000), .client .resume]

/-- "Not modified" publishes the one flag again under the second sequence, and a server that is not there makes
the poll fail with its answer as the message. -/
theorem every_end_judged_secondLook :
    ∃ polling pending next next', (initial .default 1 freshFetcher).run secondLook = some polling ∧
      polling.pending = some pending ∧ polling.client.task = .fetching 30000000000 40000000000 ∧
      polling.step (.conclude (.ok ⟨304, [], .whole []⟩) .half) = some next ∧
      next.client.snapshot.flags = polling.client.snapshot.flags ∧ next.client.snapshot.sequence = 2 ∧
      polling.step (.conclude (.ok ⟨503, [], .whole (Text.Utf8.encode "gone")⟩) .half) = some next' ∧
      verdict polling.client pending (.ok ⟨503, [], .whole (Text.Utf8.encode "gone")⟩) =
        .failure (.fetch "source returned status 503: gone") ∧
      next'.client.store = polling.client.store ∧ next'.client.stats.lastError = some "fetch_error" := by
  have facts : ((initial .default 1 freshFetcher).run secondLook).map (fun polling =>
      (polling.client.task, polling.client.snapshot.sequence,
        polling.pending.bind fun pending => pending.captured.map fun cached => cached.set.validate.isOk)) =
      some (.fetching 30000000000 40000000000, 1, some true) := by
    decide +kernel
  obtain ⟨polling, ran, facts⟩ := Option.map_eq_some_iff.mp facts
  obtain ⟨fetching, facts⟩ := Prod.mk.inj facts
  obtain ⟨first, facts⟩ := Prod.mk.inj facts
  obtain ⟨pending, flying, kept⟩ := Option.bind_eq_some_iff.mp facts
  obtain ⟨cached, captured, valid⟩ := Option.map_eq_some_iff.mp kept
  have own : Own polling :=
    ⟨.default, 1, freshFetcher, secondLook, rfl, fun snapshot member => by simp [secondLook] at member, ran⟩
  have passed : cached.set.validate = .ok () := by
    cases checked : cached.set.validate with
    | ok => rfl
    | error => simp [checked, Except.isOk, Except.toBool] at valid
  obtain ⟨next, stepped, judged⟩ :=
    (every_end_judged polling pending _ _ flying fetching (.ok ⟨304, [], .whole []⟩) .half).1
  obtain ⟨flags, _, sequence⟩ := judged.republishes own (by rw [(judged.follows own).1, first]; decide) _ rfl rfl
    ⟨cached.set, .unchanged _ cached rfl captured, passed⟩
  obtain ⟨next', stepped', judged'⟩ :=
    (every_end_judged polling pending _ _ flying fetching
      (.ok ⟨503, [], .whole (Text.Utf8.encode "gone")⟩) .half).1
  have failed := judged'.decides.words _ (.status _ "gone" (.inr (by decide)) (by decide) (by decide)
    (fun bytes came => by cases came; decide +kernel) (by simp))
  obtain ⟨store, _, _, reason⟩ := judged'.keeps _ failed
  exact ⟨polling, pending, next, next', ran, flying, fetching, stepped, flags, sequence.trans (by rw [first]; rfl),
    stepped', failed, store, reason⟩

end Polling

end Steps

end Http

end LiveFlags
