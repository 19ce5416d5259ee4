import Mathlib
import LiveFlags.Http.Build
import LiveFlags.Http.Stages
import LiveFlags.Proofs.Machine

/-!
# A fetch and its timer

One timer is set when a fetch sends its request, for the time that the exchange may take (`Fetcher.deadline`).
It covers the head of the answer and the body. Every request says how long its exchange may take, so the time
that a fetcher has been built with never counts. A server that does nothing keeps a request waiting until the
timer for the time of the request runs out, and no server keeps it waiting longer. So the time of the fetcher
is kept as well exactly if the timer for it would not have run out before (`waits_out_own_timeout`).
-/
namespace LiveFlags.Http

/-- When the timers of a runtime run out. -/
structure Timers where
  /-- The instant at which a timer runs out that is set at an instant for a duration. -/
  runsOut : Instant → Duration → Instant
  /-- It is not before the timer has been set. -/
  ahead : ∀ began duration, began ≤ runsOut began duration

/-- Timers that run out as soon as their time is over. -/
def Timers.exact : Timers where
  runsOut := Instant.timer
  ahead began duration := by
    unfold Instant.timer Instant.after?
    split
    · exact Nat.le_add_right began duration.nanos
    · exact Nat.le_add_right began Instant.farAhead

/-- A fetch, its timer and the present. -/
structure TimedFetch where
  /-- What it has captured and sent. -/
  pending : Pending
  /-- When its timer runs out. -/
  expires : Instant
  /-- The present. -/
  now : Instant
  /-- How far its exchange has come. -/
  course : Course
  /-- Whether it has ended because its time was over. -/
  expired : Bool
  /-- The words of the transport. -/
  words : TransportWords

/-- Something that happens to a fetch. -/
inductive TimedAction where
  /-- The transport fails before the head of an answer has come. -/
  | fail (fault : TransportFault)
  /-- The head of an answer comes. -/
  | head (status : UInt16) (headers : List (String × HeaderValue))
  /-- The body comes, or the connection ends before all of it has come. -/
  | body (body : Body)
  /-- The time of the fetch is over. -/
  | expire
  /-- Time passes. -/
  | elapse (nanos : Nat)

/-- How far the exchange is after something has come of it. -/
def Course.next? : Course → TimedAction → Option Course
  | .silent, .fail fault => some (.faulty fault)
  | .silent, .head status headers => some (.headed status headers)
  | .headed status headers, .body body => some (.complete ⟨status, headers, body⟩)
  | _, _ => none

/-- What a fetch comes to whose time is over before all of the answer has come. An answer that is no document is
left without its text. -/
def Course.overdue (words : TransportWords) : Course → Fetched
  | .headed status headers =>
    if (Answer.mk status headers (.whole [])).isSuccess then Pending.refused (.request (words.fault .timedOut))
    else Pending.refused (.status status "")
  | _ => Pending.refused (.request (words.fault .timedOut))

namespace TimedFetch

/-- A fetch begins. A request that cannot be sent fails at once. -/
def start (timers : Timers) (words : TransportWords) (fetcher : Fetcher) (context : FetchContext)
    (began : Instant) : TimedFetch :=
  let pending := fetcher.capture context
  { pending
    expires := timers.runsOut began (fetcher.deadline pending.request)
    now := began
    course := if pending.request.isSendable then .silent else .faulty (words.fault .unsendable)
    expired := false
    words }

/-- What the fetch has come to, if it has ended. -/
def result? (fetch : TimedFetch) : Option Fetched :=
  if fetch.expired then some (fetch.course.overdue fetch.words) else fetch.pending.follow fetch.course

/-- The fetch has not ended. -/
def isPending (fetch : TimedFetch) : Bool := fetch.result?.isNone

/-- What follows an action, if it can happen. No timer is overrun: as long as the fetch waits, time passes up to the
instant at which its time is over. -/
def step (fetch : TimedFetch) (action : TimedAction) : Option TimedFetch :=
  match action with
  | .elapse nanos =>
    if fetch.isPending → fetch.now + nanos ≤ fetch.expires then some { fetch with now := fetch.now + nanos }
    else none
  | .expire => if fetch.isPending ∧ fetch.expires ≤ fetch.now then some { fetch with expired := true } else none
  | action =>
    if fetch.isPending then (fetch.course.next? action).map fun course => { fetch with course } else none

/-- What follows a history, if all of it can happen in this order. -/
def run (fetch : TimedFetch) (history : List TimedAction) : Option TimedFetch :=
  Machine.run step fetch history

/-- A fetch that has begun at an instant waits until another at most. -/
structure EndsBy (began expires : Instant) (words : TransportWords) (fetch : TimedFetch) : Prop where
  /-- Its timer runs out then. -/
  timed : fetch.expires = expires
  /-- The words of its transport stay. -/
  worded : fetch.words = words
  /-- It has begun. -/
  begun : began ≤ fetch.now
  /-- It does not wait after that. -/
  inTime : fetch.isPending = true → fetch.now ≤ expires

variable {timers : Timers} {words : TransportWords} {fetcher : Fetcher} {context : FetchContext} {fetch next : TimedFetch}
  {action : TimedAction} {history : List TimedAction} {began expires : Instant}

/-- The timer of a fetch is set for the time that the client gives. -/
theorem endsBy_start (timers : Timers) (words : TransportWords) (fetcher : Fetcher) (context : FetchContext)
    (began : Instant) :
    EndsBy began (timers.runsOut began context.timeout) words (start timers words fetcher context began) :=
  ⟨rfl, rfl, Nat.le_refl began, fun _ => timers.ahead began context.timeout⟩

/-- Time passes only as long as the timer has not run out, and nothing sets it anew. -/
theorem endsBy_step (stepped : fetch.step action = some next) (endsBy : EndsBy began expires words fetch) :
    EndsBy began expires words next := by
  obtain ⟨same, worded, begun, inTime⟩ := endsBy
  cases action with
  | elapse nanos =>
    simp only [step, Option.ite_none_right_eq_some] at stepped
    obtain ⟨allowed, stepped⟩ := stepped
    obtain rfl := Option.some.inj stepped
    refine ⟨same, worded, Nat.le_trans begun (Nat.le_add_right _ _), fun waits => ?_⟩
    rw [← same]
    exact allowed waits
  | expire =>
    simp only [step, Option.ite_none_right_eq_some] at stepped
    obtain ⟨_, stepped⟩ := stepped
    obtain rfl := Option.some.inj stepped
    refine ⟨same, worded, begun, fun waits => ?_⟩
    simp [isPending, result?] at waits
  | fail | head | body =>
    simp only [step, Option.ite_none_right_eq_some] at stepped
    obtain ⟨waits, stepped⟩ := stepped
    obtain ⟨course, _, rfl⟩ := Option.map_eq_some_iff.mp stepped
    exact ⟨same, worded, begun, fun _ => inTime waits⟩

/-- A fetch waits at most until its timer runs out. -/
theorem endsBy_run (ran : (start timers words fetcher context began).run history = some fetch) :
    EndsBy began (timers.runsOut began context.timeout) words fetch :=
  Machine.keeps_history (fun _ => EndsBy began (timers.runsOut began context.timeout) words) (fun _ => endsBy_step)
    (endsBy_start timers words fetcher context began) ran

/-- When its time is over a fetch that still waits ends. -/
theorem ends_of_pending (endsBy : EndsBy began expires words fetch) (waits : fetch.isPending = true) :
    ∃ ended, fetch.run [.elapse (expires - fetch.now), .expire] = some ended ∧ ended.now = expires ∧
      ended.result? = some (fetch.course.overdue words) := by
  obtain ⟨same, rfl, _, inTime⟩ := endsBy
  have reached : fetch.now + (expires - fetch.now) = expires := Nat.add_sub_cancel' (inTime waits)
  have late : fetch.step (.elapse (expires - fetch.now)) = some { fetch with now := expires } := by
    simp [step, reached, same]
  have lapsed : step { fetch with now := expires } .expire = some { fetch with now := expires, expired := true } := by
    simp only [step, same]
    rw [if_pos ⟨waits, Nat.le_refl expires⟩]
  refine ⟨{ fetch with now := expires, expired := true }, ?_, rfl, rfl⟩
  simp only [run, Machine.run, late, Option.bind_some, lapsed]

/-- A server that does nothing keeps a request that can be sent waiting until its timer runs out. -/
theorem waits_for_silent (sendable : (fetcher.request context).isSendable = true) {now : Instant}
    (begun : began ≤ now) (inTime : now ≤ timers.runsOut began context.timeout) :
    ∃ fetch, (start timers words fetcher context began).run [.elapse (now - began)] = some fetch ∧
      fetch.isPending = true ∧ fetch.now = now := by
  have reached : began + (now - began) = now := Nat.add_sub_cancel' begun
  have silent : (start timers words fetcher context began).course = .silent := if_pos sendable
  have passed : (start timers words fetcher context began).step (.elapse (now - began)) =
      some { start timers words fetcher context began with now := now } := by
    have room : (start timers words fetcher context began).now + (now - began) ≤
      (start timers words fetcher context began).expires := Nat.le_trans (Nat.le_of_eq reached) inTime
    rw [step, if_pos fun _ => room]
    exact congrArg (fun now => some { start timers words fetcher context began with now := now }) reached
  refine ⟨_, Machine.run_singleton.trans passed, ?_, rfl⟩
  simp only [isPending, result?, silent]
  rfl

/-- A request that can be sent never waits beyond an instant exactly if its timer does not run out after it. -/
theorem waits_within_iff (sendable : (fetcher.request context).isSendable = true) (bound : Instant) :
    (∀ history fetch, (start timers words fetcher context began).run history = some fetch → fetch.isPending = true →
      fetch.now ≤ bound) ↔ timers.runsOut began context.timeout ≤ bound := by
  constructor
  · intro within
    obtain ⟨fetch, ran, waits, now⟩ :=
      waits_for_silent sendable (timers.ahead began context.timeout) (Nat.le_refl _)
    rw [← now]
    exact within _ fetch ran waits
  · intro later history fetch ran waits
    exact Nat.le_trans ((endsBy_run ran).inTime waits) later

end TimedFetch

/-- A fetcher is built from an address that can be read and a key that is not blank, and it has kept nothing. -/
theorem FetcherBuilder.build_eq_ok_iff {builder : FetcherBuilder} {fetcher : Fetcher} :
    builder.build = .ok fetcher ↔ ∃ endpoint key, builder.endpoint = .ok endpoint ∧
      builder.apiKey.filter (fun key => !(Text.trim key).isEmpty) = some key ∧
      fetcher = ⟨endpoint, key, builder.requestTimeout.getD defaultRequestTimeout, none⟩ := by
  unfold build
  cases builder.endpoint with
  | error error => simp [bind, Except.bind]
  | ok endpoint =>
    cases builder.apiKey.filter fun key => !(Text.trim key).isEmpty with
    | none => simp [bind, Except.bind]
    | some key => simp [bind, Except.bind, eq_comm]

/-- How long a fetch waits that began at an instant, through a fetcher that allows a time by itself. -/
structure WaitsOutOwnTimeout (timers : Timers) (words : TransportWords) (fetcher : Fetcher) (allowed : Duration)
    (context : FetchContext) (began : Instant) : Prop where
  /-- The fetcher allows this time to a request that does not say. -/
  unsaid : ∀ request, request.timeout = none → fetcher.deadline request = allowed
  /-- Whatever the server does and when, the fetch waits at most until the timer for the time that the client gives
  runs out. -/
  within : ∀ history fetch, (TimedFetch.start timers words fetcher context began).run history = some fetch →
    fetch.isPending = true → fetch.now ≤ timers.runsOut began context.timeout
  /-- If it still waits then, it ends then: with an error of the transport, or with the status of an answer whose text
  has not come. -/
  ends : ∀ history fetch, (TimedFetch.start timers words fetcher context began).run history = some fetch →
    fetch.isPending = true →
      ∃ ended, fetch.run [.elapse (timers.runsOut began context.timeout - fetch.now), .expire] = some ended ∧
        ended.now = timers.runsOut began context.timeout ∧ ended.result? = some (fetch.course.overdue words)
  /-- A server that does nothing keeps a request that can be sent waiting at every instant until then. -/
  silent : (fetcher.request context).isSendable = true →
    ∀ now, began ≤ now → now ≤ timers.runsOut began context.timeout →
      ∃ fetch, (TimedFetch.start timers words fetcher context began).run [.elapse (now - began)] = some fetch ∧
        fetch.isPending = true ∧ fetch.now = now
  /-- So a request that can be sent never outlasts either timer exactly if that for the time of the client does not run
  out after the other. -/
  both : (fetcher.request context).isSendable = true →
    ((∀ history fetch, (TimedFetch.start timers words fetcher context began).run history = some fetch →
      fetch.isPending = true →
        fetch.now ≤ min (timers.runsOut began allowed) (timers.runsOut began context.timeout)) ↔
      timers.runsOut began context.timeout ≤ timers.runsOut began allowed)
  /-- With a timer that runs out as soon as the time of the client is over it never waits longer than the shorter of the
  two times exactly if this is that of the client. -/
  shorter : (fetcher.request context).isSendable = true →
    timers.runsOut began context.timeout = began + context.timeout.nanos →
      ((∀ history fetch, (TimedFetch.start timers words fetcher context began).run history = some fetch →
        fetch.isPending = true → fetch.now - began ≤ min allowed.nanos context.timeout.nanos) ↔
        context.timeout ≤ allowed)

/-- A fetch waits for the time that the client gives and no longer, whatever time its fetcher has been built with, and
whatever that fetcher has kept since. So the time of the fetcher is kept as well exactly if it is not the shorter
one. -/
theorem waits_out_own_timeout (timers : Timers) (words : TransportWords) {builder : FetcherBuilder} {built : Fetcher}
    (builds : builder.build = .ok built) (cached : Option Cached) (context : FetchContext) (began : Instant) :
    WaitsOutOwnTimeout timers words { built with cached := cached }
      (builder.requestTimeout.getD FetcherBuilder.defaultRequestTimeout) context began := by
  obtain ⟨endpoint, key, _, _, rfl⟩ := FetcherBuilder.build_eq_ok_iff.mp builds
  generalize builder.requestTimeout.getD FetcherBuilder.defaultRequestTimeout = allowed
  constructor
  · intro request unsaid
    rw [Fetcher.deadline, unsaid]
    rfl
  · intro history fetch ran waits
    exact (TimedFetch.endsBy_run ran).inTime waits
  · intro history fetch ran waits
    exact TimedFetch.ends_of_pending (TimedFetch.endsBy_run ran) waits
  · intro sendable now begun inTime
    exact TimedFetch.waits_for_silent sendable begun inTime
  · intro sendable
    rw [TimedFetch.waits_within_iff sendable, Nat.le_min]
    exact and_iff_left (Nat.le_refl _)
  · intro sendable punctual
    simp only [Nat.sub_le_iff_le_add']
    rw [TimedFetch.waits_within_iff sendable, punctual, Nat.add_le_add_iff_left, Nat.le_min]
    exact and_iff_left (Nat.le_refl _)

/-- A builder for a fetcher of a server, with a time for each exchange. -/
def allowing (requestTimeout : Duration) : FetcherBuilder :=
  ⟨some "http://flags.example.com", some "key", none, some requestTimeout⟩

/-- The fetcher that it builds. -/
def allowingFetcher (requestTimeout : Duration) : Fetcher :=
  ⟨⟨"http", some (.ofHost (.name "flags.example.com")), .segments ["api", "flags"], none, none⟩, "key",
    requestTimeout, none⟩

/-- The first poll of a client that gives each fetch a time. -/
def firstFetch (timeout : Duration) : FetchContext := ⟨none, 1, timeout⟩

/-- The fetcher is built. -/
theorem build_allowing (requestTimeout : Duration) :
    (allowing requestTimeout).build = .ok (allowingFetcher requestTimeout) := by
  have endpoint : (allowing requestTimeout).endpoint = .ok (allowingFetcher requestTimeout).endpoint := by cbv
  have key : (some "key").filter (fun key => !(Text.trim key).isEmpty) = some "key" := by decide +kernel
  exact FetcherBuilder.build_eq_ok_iff.mpr ⟨_, "key", endpoint, key, rfl⟩

/-- A fetch that the client gives fifty milliseconds through a fetcher that allows a second never waits longer than the
fifty milliseconds. -/
theorem waits_out_own_timeout_shorter :
    (allowing (.ofMillis 1000)).build = .ok (allowingFetcher (.ofMillis 1000)) ∧
      ((allowingFetcher (.ofMillis 1000)).request (firstFetch (.ofMillis 50))).isSendable = true ∧
      ∀ words history fetch, (TimedFetch.start .exact words (allowingFetcher (.ofMillis 1000))
          (firstFetch (.ofMillis 50)) 7).run history = some fetch →
        fetch.isPending = true → fetch.now - 7 ≤ 50000000 := by
  have builds := build_allowing (.ofMillis 1000)
  have sendable : ((allowingFetcher (.ofMillis 1000)).request (firstFetch (.ofMillis 50))).isSendable = true := by
    decide +kernel
  refine ⟨builds, sendable, fun words => ?_⟩
  have waits := waits_out_own_timeout .exact words builds none (firstFetch (.ofMillis 50)) 7
  exact (waits.shorter sendable (by decide)).mpr (by decide)

/-- A fetch that the client gives a second through a fetcher that allows fifty milliseconds still waits when the second is
over, if the server does nothing. -/
theorem fetcher_timeout_outlasted :
    (allowing (.ofMillis 50)).build = .ok (allowingFetcher (.ofMillis 50)) ∧
      ∃ fetch, (TimedFetch.start .exact (fun _ => "") (allowingFetcher (.ofMillis 50)) (firstFetch (.ofMillis 1000))
          0).run
          [.elapse 1000000000] = some fetch ∧
        fetch.isPending = true ∧ fetch.now = 1000000000 ∧
        min (Duration.ofMillis 50).nanos (Duration.ofMillis 1000).nanos < fetch.now - 0 := by
  have sendable : ((allowingFetcher (.ofMillis 50)).request (firstFetch (.ofMillis 1000))).isSendable = true := by
    decide +kernel
  have inTime : 1000000000 ≤ Timers.exact.runsOut 0 (firstFetch (.ofMillis 1000)).timeout := by decide
  obtain ⟨fetch, ran, waits, now⟩ := TimedFetch.waits_for_silent sendable (Nat.zero_le 1000000000) inTime
  refine ⟨build_allowing _, fetch, ran, waits, now, ?_⟩
  rw [now]
  decide

end LiveFlags.Http
