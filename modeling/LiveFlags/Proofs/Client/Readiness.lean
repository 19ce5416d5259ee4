import LiveFlags.Client.Build
import LiveFlags.Proofs.Client.Waiting
import LiveFlags.Proofs.Client.Waits

/-!
# Readiness

A caller that waits for the first snapshot is told that there is one at the first publication, at once if that was
before the call, and is told that there is none when its time is over without a publication (`told_in_time`). Failed
polls, stops and whoever else waits do not matter to it. It does not have to rely on others either: as long as it
waits, either the client itself has something to do, of which there is less each time, or time can pass (`advances`).
So the caller comes to be told (`exists_told`).
-/
namespace LiveFlags.Client

/-- How much the task has to do at present: a fetch that is overdue is cut off, and then the next one may be due. -/
def haste (client : Client) : Nat :=
  match client.task with
  | .queued => 1
  | .fetching _ cutOff => if cutOff ≤ client.now then 2 else 0
  | .sleeping wake => if client.cancelled = true ∨ wake ≤ client.now then 1 else 0
  | .absent | .ended _ => 0

/-- How much there is to do before time can pass. A call that takes the lock may leave a drain and a task that has to do
something, so it counts for more than both. -/
def backlog (client : Client) : Nat :=
  4 * client.queue.length + client.draining.toList.length + client.haste + client.waiters.length

/-- Somebody does something by itself: time passes, but not beyond a limit, or there is less to do. -/
def Advances (limit : Instant) (client : Client) : Prop :=
  ∃ action next, action.Internal ∧ client.step action = some next ∧
    (limit - next.now < limit - client.now ∨ next.now = client.now ∧ next.backlog < client.backlog)

variable {client next : Client} {action : Action} {actions : List Action}

/-- The task has at most two things to do. -/
theorem haste_le (client : Client) : client.haste ≤ 2 := by
  unfold haste
  split <;> (try split) <;> omega

/-- A task that does not wait for a fetch has at most one thing to do. -/
theorem haste_le_one (calm : ∀ started cutOff, client.task ≠ .fetching started cutOff) : client.haste ≤ 1 := by
  unfold haste
  cases task : client.task with
  | fetching started cutOff => exact absurd task (calm started cutOff)
  | sleeping wake => dsimp only; split <;> omega
  | queued | absent | ended => simp

/-- There is less to do if only the task has done something. -/
theorem backlog_lt (queue : next.queue = client.queue) (draining : next.draining = client.draining)
    (waiters : next.waiters = client.waiters) (less : next.haste < client.haste) : next.backlog < client.backlog := by
  unfold backlog
  rw [queue, draining, waiters]
  omega

/-- A call that can go on with the lock does. -/
theorem advances_of_lockDue (orderly : Orderly client) (due : client.lockDue = true) (limit : Instant) :
    Advances limit client := by
  cases holds : client.draining with
  | none =>
    cases head : client.queue with
    | nil => simp [lockDue, holds, head] at due
    | cons call rest =>
      obtain ⟨next, stepped, left, _⟩ := takeLock_of_pending orderly holds head
      have same : next.now = client.now ∧ next.waiters = client.waiters := by
        cases transition_of_step stepped <;> exact ⟨rfl, rfl⟩
      have one : next.draining.toList.length ≤ 1 := by cases next.draining <;> simp
      have two := haste_le next
      refine ⟨.takeLock, next, trivial, stepped, .inr ⟨same.1, ?_⟩⟩
      unfold backlog
      rw [left, same.2, head, List.length_cons]
      omega
  | some caller =>
    cases task : client.task with
    | ended how =>
      obtain ⟨next, stepped⟩ : ∃ next, client.step .drained = some next := by simp [step, drained?, holds, task]
      cases transition_of_step stepped with
      | drains => exact ⟨.drained, _, trivial, stepped, .inr ⟨rfl, by simp [backlog, haste, holds]⟩⟩
    | absent | queued | fetching | sleeping => simp [lockDue, holds, task] at due

/-- A task that runs has nothing more to do at present. -/
theorem advances_of_resume (positive : 0 < client.config.fetchTimeout.nanos) (hasty : client.haste ≠ 0)
    (stepped : client.step .resume = some next) (limit : Instant) : Advances limit client := by
  have hasty : 0 < client.haste := Nat.pos_of_ne_zero hasty
  cases transition_of_step stepped with
  | exits => exact ⟨.resume, _, trivial, stepped, .inr ⟨rfl, backlog_lt rfl rfl rfl hasty⟩⟩
  | begins =>
    have later : client.now < client.timer client.config.fetchTimeout := lt_timer _ positive
    have none : client.beginPoll.haste = 0 := if_neg (Nat.not_le.mpr later)
    exact ⟨.resume, _, trivial, stepped, .inr ⟨rfl, backlog_lt rfl rfl rfl (none ▸ hasty)⟩⟩

/-- A task that has to do something at present does it. -/
theorem advances_of_haste (sound : client.config.validate = .ok ()) (hasty : client.haste ≠ 0) (limit : Instant) :
    Advances limit client := by
  obtain ⟨_, positive, _, _⟩ := Config.validate_eq_ok_iff.mp sound
  cases task : client.task with
  | absent | ended => simp [haste, task] at hasty
  | queued =>
    obtain ⟨next, stepped⟩ : ∃ next, client.step .resume = some next := by simp [step, resume?, task]
    exact advances_of_resume positive hasty stepped limit
  | sleeping wake =>
    have awake : client.cancelled = true ∨ wake ≤ client.now := by
      by_contra asleep
      simp [haste, task, asleep] at hasty
    obtain ⟨next, stepped⟩ : ∃ next, client.step .resume = some next := by
      by_cases told : client.cancelled = true
      · simp [step, resume?, task, told]
      · simp [step, resume?, task, told, awake.resolve_left told]
    exact advances_of_resume positive hasty stepped limit
  | fetching started cutOff =>
    have late : cutOff ≤ client.now := by
      by_contra early
      simp [haste, task, early] at hasty
    obtain ⟨next, stepped⟩ : ∃ next, client.step (.cutOff .half) = some next := by
      simp [step, cutOff?, task, late]
    have two : client.haste = 2 := by simp [haste, task, late]
    cases transition_of_step stepped with
    | cutsOff draw began =>
      have one : (client.afterPoll (.failure .timeout) began .half).haste ≤ 1 :=
        haste_le_one (taskAfter_ne_fetching client began .half)
      exact ⟨.cutOff .half, _, trivial, stepped, .inr ⟨rfl, backlog_lt rfl rfl rfl (by omega)⟩⟩

/-- A caller that waits sees that there is a snapshot. -/
theorem advances_of_ready (ready : client.isReady = true) (waits : client.waiters ≠ []) (limit : Instant) :
    Advances limit client := by
  obtain ⟨first, rest, waiting⟩ := List.exists_cons_of_ne_nil waits
  obtain ⟨next, stepped⟩ : ∃ next, client.step .notice = some next := by simp [step, notice?, waiting, ready]
  cases transition_of_step stepped with
  | notices waiter rest same => exact ⟨.notice, _, trivial, stepped, .inr ⟨rfl, by simp [backlog, haste, same]⟩⟩

/-- A task with nothing to do at present goes on later, if at all. -/
theorem lt_of_taskDue {due : Instant} (calm : client.haste = 0) (goesOn : client.taskDue? = some due) :
    client.now < due := by
  unfold haste at calm
  unfold taskDue? at goesOn
  cases task : client.task with
  | absent | ended => simp [task] at goesOn
  | queued => simp [task] at calm
  | fetching started cutOff =>
    simp only [task, Option.some.injEq, ite_eq_right_iff, reduceCtorEq, imp_false] at calm goesOn
    exact goesOn ▸ Nat.lt_of_not_le calm
  | sleeping wake =>
    simp only [task, Option.some.injEq, ite_eq_right_iff, reduceCtorEq, imp_false, not_or] at calm goesOn
    rw [if_neg calm.1] at goesOn
    exact goesOn ▸ Nat.lt_of_not_le calm.2

/-- A caller that waits gives up, or time passes until something is due. -/
theorem advances_of_calm (unready : client.isReady = false) (free : client.lockDue = false)
    (calm : client.haste = 0) {limit : Instant} {waiter : Waiter} (waits : waiter ∈ client.waiters)
    (inTime : waiter.givesUp ≤ limit) : Advances limit client := by
  obtain ⟨first, inside, least⟩ := exists_first_waiter (List.ne_nil_of_mem waits)
  by_cases late : first.givesUp ≤ client.now
  · obtain ⟨left, readiness, fewer, stepped⟩ := giveUp_of_late inside late unready
    refine ⟨.giveUp first.caller, _, trivial, stepped, .inr ⟨rfl, ?_⟩⟩
    simp only [backlog, haste]
    omega
  · -- time passes until the first caller gives up, or until the task goes on before
    have soon : client.now < first.givesUp := Nat.lt_of_not_le late
    have stop : ∃ instant, client.now < instant ∧ instant ≤ first.givesUp ∧
        ∀ due, client.taskDue? = some due → instant ≤ due := by
      cases goesOn : client.taskDue? with
      | none => exact ⟨first.givesUp, soon, Nat.le_refl _, by simp⟩
      | some due =>
        refine ⟨min first.givesUp due, Nat.lt_min.mpr ⟨soon, lt_of_taskDue calm goesOn⟩, Nat.min_le_left _ _, ?_⟩
        intro other same
        obtain rfl := Option.some.inj same
        exact Nat.min_le_right _ _
    obtain ⟨instant, future, early, goesOn⟩ := stop
    have inTime' : ∀ due ∈ client.dues, instant ≤ due := by
      intro due member
      rcases mem_dues.mp member with task | ⟨locked, _⟩ | ⟨other, waits, rfl⟩
      · exact goesOn due task
      · rw [free] at locked
        contradiction
      · rw [unready]
        exact Nat.le_trans early (least other waits)
    refine ⟨.elapse (instant - client.now), _, trivial, elapse_to (Nat.le_of_lt future) inTime', .inl ?_⟩
    have within : instant ≤ limit := Nat.le_trans early (Nat.le_trans (least waiter waits) inTime)
    exact Nat.sub_lt_sub_left (Nat.lt_of_lt_of_le future within) future

/-- As long as a caller waits for no longer than a limit, something happens by itself. -/
theorem advances (sound : client.config.validate = .ok ()) (orderly : Orderly client) {limit : Instant}
    {waiter : Waiter} (waits : waiter ∈ client.waiters) (inTime : waiter.givesUp ≤ limit) : Advances limit client := by
  by_cases ready : client.isReady = true
  · exact advances_of_ready ready (List.ne_nil_of_mem waits) limit
  by_cases due : client.lockDue = true
  · exact advances_of_lockDue orderly due limit
  by_cases calm : client.haste = 0
  · exact advances_of_calm (by simpa using ready) (by simpa using due) calm waits inTime
  · exact advances_of_haste sound calm limit

/-- The callers that wait after an action of the client itself have waited before. -/
theorem waiters_of_internal (own : action.Internal) (stepped : client.step action = some next) :
    ∀ waiter ∈ next.waiters, waiter ∈ client.waiters := by
  cases transition_of_step stepped with
  | awaits => exact own.elim
  | notices first rest head => exact fun waiter member => by rw [head]; exact .tail _ member
  | givesUp first => exact fun waiter member => List.mem_of_mem_erase member
  | _ => exact fun waiter member => member

/-- Every caller that waits can be told, without any help of the source, of the owner or of other callers. -/
theorem exists_told (client : Client) (sound : client.config.validate = .ok ()) (orderly : Orderly client)
    {caller : Nat} {limit : Instant}
    (inTime : ∀ waiter ∈ client.waiters, waiter.caller = caller → waiter.givesUp ≤ limit) :
    ∃ later next, (∀ action ∈ later, action.Internal) ∧ client.run later = some next ∧ next.waitsOf caller = 0 := by
  by_cases waits : client.waitsOf caller = 0
  · exact ⟨[], client, by simp, rfl, waits⟩
  · obtain ⟨waiter, member, ours⟩ := List.countP_pos_iff.mp (Nat.pos_of_ne_zero waits)
    obtain ⟨action, middle, own, stepped, closer⟩ :=
      advances sound orderly member (inTime waiter member (by simpa using ours))
    have sound' : middle.config.validate = .ok () := (config_step stepped).1 ▸ sound
    have fewer := waiters_of_internal own stepped
    obtain ⟨later, next, owns, ran, told⟩ := exists_told middle sound' (orderly_step stepped orderly)
      fun waiter member => inTime waiter (fewer waiter member)
    refine ⟨action :: later, next, List.forall_mem_cons.mpr ⟨own, owns⟩, ?_, told⟩
    rw [run, stepped]
    exact ran
-- the time that is left before the limit comes first: when time passes there may be more to do
termination_by (limit - client.now, client.backlog)
decreasing_by
  rcases closer with sooner | ⟨same, less⟩
  · exact .left _ _ sooner
  · rw [same]
    exact .right _ less

/-- Nothing is published by the actions of the client itself. -/
theorem publications_of_internal (own : ∀ action ∈ actions, action.Internal) (ran : client.run actions = some next) :
    client.trail publication? actions = [] := by
  refine trail_keeps publication? (fun seen _ => seen = []) Action.Internal
    (fun {seen client next action} own _ held => ?_) own rfl ran
  have none : client.publication? action = none := by
    cases action <;> first | rfl | exact own.elim
  rw [held, none]
  rfl

/-- Once there is a snapshot to see there is one for good. -/
theorem isReady_step (stepped : client.step action = some next) (ready : client.isReady = true) :
    next.isReady = true := by
  cases taken : client.taken? action with
  | none =>
    rw [isReady, store_of_untaken stepped taken]
    exact ready
  | some snapshot => exact isReady_of_taken stepped taken

/-- While there is a snapshot to see nobody gives up. -/
theorem verdicts_of_ready (caller : Nat) (ready : client.isReady = true) (ran : client.run actions = some next) :
    ∀ verdict ∈ client.trail (verdict? caller) actions, verdict.1 = true := by
  have kept := trail_keeps (verdict? caller)
    (fun verdicts middle => middle.isReady = true ∧ ∀ verdict ∈ verdicts, verdict.1 = true) (fun _ => True)
    (fun {verdicts client next action} _ stepped held => ?_) (fun _ _ => trivial) ⟨ready, by simp⟩ ran
  · exact kept.2
  · refine ⟨isReady_step stepped held.1, fun verdict member => ?_⟩
    rcases List.mem_append.mp member with before | here
    · exact held.2 verdict before
    · cases transition_of_step stepped with
      | givesUp waiter waits late unready => simp [held.1] at unready
      | notices waiter rest first =>
        by_cases ours : waiter.caller = caller
        · simp only [verdict?, first, List.head?_cons, Option.any_some, ours, decide_true, if_true, Option.toList_some,
            List.mem_singleton] at here
          rw [here]
        · simp [verdict?, first, ours] at here
      | _ => simp [verdict?] at here

/-- A caller that waits can be told: at once if there is a snapshot to see, or when its time is over. -/
theorem exists_verdict (sound : client.config.validate = .ok ()) (orderly : Orderly client) {caller : Nat}
    {asked limit : Instant} {early seen : List (Instant × Snapshot)}
    (awaiting : Awaiting caller asked limit early seen [] client) :
    ∃ later next, (∀ action ∈ later, action.Internal) ∧ client.run later = some next ∧
      client.trail (verdict? caller) later = [(client.isReady, if client.isReady then client.now else limit)] := by
  obtain ⟨later, next, own, ran, told⟩ := exists_told client sound orderly
    fun waiter member ours => Nat.le_of_eq (awaiting.givesUp waiter member ours)
  refine ⟨later, next, own, ran, ?_⟩
  have reached := awaiting_run (fun other member => own _ member) ran awaiting
  rw [publications_of_internal own ran, List.append_nil, List.nil_append] at reached
  have once := reached.once
  rw [told, Nat.add_zero] at once
  have sure := fun ready => verdicts_of_ready caller ready ran
  obtain ⟨⟨ready, instant⟩, only⟩ := List.length_eq_one_iff.mp once
  rw [only] at reached sure ⊢
  have still := (awaiting.inTime rfl).2.2
  by_cases shown : client.isReady = true
  · obtain rfl : ready = true := sure shown _ (List.mem_singleton_self _)
    obtain ⟨_, first, snapshot, head, same⟩ := reached.told instant (List.mem_singleton_self _)
    rw [shown, if_pos rfl, still first snapshot head, same]
  · have none : seen = [] := by
      by_contra some
      exact shown (awaiting.published.ready.mpr some)
    cases ready with
    | true =>
      obtain ⟨_, first, snapshot, head, _⟩ := reached.told instant (List.mem_singleton_self _)
      simp [none] at head
    | false =>
      obtain ⟨same, _⟩ := reached.late instant (List.mem_singleton_self _)
      rw [if_neg shown, same, Bool.eq_false_iff.mpr shown]

/-- At some point of a run a caller has begun to wait, and the run has gone on since; nobody else waits under its
name. -/
structure HasAsked (config : Config) (timerStep : Nat) (before : List Action) (caller : Nat) (timeout : Duration)
    (after : List Action) (asked last : Client) : Prop where
  /-- The run up to the call. -/
  reached : (initial config timerStep).run before = some asked
  /-- The call, and the run since. -/
  ran : asked.run (.await caller timeout :: after) = some last
  /-- The caller waits only once. -/
  alone : ∀ other, .await caller other ∉ before ∧ .await caller other ∉ after

namespace HasAsked

variable {config : Config} {timerStep : Nat} {before after : List Action} {caller : Nat} {timeout : Duration}
  {asked last : Client}

/-- Nobody has waited under the name of the caller before the call. -/
theorem absent (called : HasAsked config timerStep before caller timeout after asked last) :
    asked.waitsOf caller = 0 := by
  refine List.countP_eq_zero.mpr fun waiter member ours => ?_
  obtain ⟨other, awaited⟩ := (awaited_run called.reached).1 waiter member
  simp only [decide_eq_true_eq] at ours
  exact (called.alone other).1 (ours ▸ awaited)

/-- Nothing has been told to the caller before the call. -/
theorem unanswered (called : HasAsked config timerStep before caller timeout after asked last) :
    asked.answersTo caller = [] := by
  refine List.map_eq_nil_iff.mpr (List.filter_eq_nil_iff.mpr fun answer member ours => ?_)
  obtain ⟨other, awaited⟩ := (awaited_run called.reached).2 answer member
  simp only [decide_eq_true_eq] at ours
  exact (called.alone other).1 (ours ▸ awaited)

/-- The client records what the caller is told since the call, and nothing else. -/
theorem recorded (called : HasAsked config timerStep before caller timeout after asked last) :
    last.answersTo caller = (asked.trail (verdict? caller) (.await caller timeout :: after)).map (·.1) := by
  have record := answersTo_run caller called.ran
  rwa [called.unanswered, List.nil_append] at record

/-- What the caller has been told depends on the first publication of the run and on the end of its time. -/
theorem awaiting (called : HasAsked config timerStep before caller timeout after asked last) :
    Awaiting caller asked.now (asked.timer timeout) ((initial config timerStep).trail publication? before)
      ((initial config timerStep).trail publication? (before ++ .await caller timeout :: after))
      (asked.trail (verdict? caller) (.await caller timeout :: after)) last := by
  obtain ⟨waiting, stepped, since⟩ := run_cons called.ran
  have seen : (initial config timerStep).trail publication? (before ++ .await caller timeout :: after) =
      (initial config timerStep).trail publication? before ++ waiting.trail publication? after := by
    rw [trail, Machine.trail_append (run_eq ▸ called.reached), Machine.trail_cons stepped]
    rfl
  have told : asked.trail (verdict? caller) (.await caller timeout :: after) =
      waiting.trail (verdict? caller) after := by
    simp only [trail, Machine.trail_cons stepped]
    rfl
  rw [seen, told]
  have started := awaiting_of_await (published_run called.reached) called.absent stepped
  exact awaiting_run (fun other => (called.alone other).2) since started

/-- What the caller is told later is told after what it has been told. -/
theorem trail_append (called : HasAsked config timerStep before caller timeout after asked last)
    (later : List Action) : asked.trail (verdict? caller) (.await caller timeout :: (after ++ later)) =
      asked.trail (verdict? caller) (.await caller timeout :: after) ++ last.trail (verdict? caller) later := by
  rw [← List.cons_append]
  exact Machine.trail_append (run_eq ▸ called.ran)

end HasAsked

/-- What the caller is told, and when: `early` are the publications before the call, `seen` all those so far, and
`verdicts` is what the caller has been told. -/
structure ToldInTime (caller : Nat) (timeout : Duration) (after : List Action) (asked last : Client) (limit : Instant)
    (early seen : List (Instant × Snapshot)) (verdicts : List (Bool × Instant)) : Prop where
  /-- The time of the caller is over at the first instant for timers that is not before the end of its timeout. -/
  named : asked.now + timeout.nanos < Instant.limit →
    asked.now + timeout.nanos ≤ limit ∧ limit < asked.now + timeout.nanos + max asked.timerStep 1
  /-- That is the end of its timeout itself if timers can run out then. -/
  whole : asked.now + timeout.nanos < Instant.limit → asked.timerStep ∣ asked.now + timeout.nanos →
    limit = asked.now + timeout.nanos
  /-- The caller is told once, or it still waits. -/
  once : verdicts.length + last.waitsOf caller = 1
  /-- The client records what the caller is told. -/
  recorded : last.answersTo caller = verdicts.map (·.1)
  /-- It is told that there is a snapshot at the first publication, or at once if that was before the call. -/
  ready : ∀ instant, (true, instant) ∈ verdicts → instant ≤ limit ∧
    ∃ first snapshot, seen.head? = some (first, snapshot) ∧ instant = max asked.now first
  /-- It is told that there is none when its time is over, and only if nothing has been published until then. -/
  late : ∀ instant, (false, instant) ∈ verdicts → instant = limit ∧ early = [] ∧
    ∀ publication ∈ seen, limit ≤ publication.1
  /-- As long as it waits its time is not over, and since the first publication no time has passed. -/
  waits : verdicts = [] → last.now ≤ limit ∧
    ∀ first snapshot, seen.head? = some (first, snapshot) → last.now = max asked.now first
  /-- Since the first publication its snapshot is visible, or a later one. -/
  visible : ∀ first snapshot, seen.head? = some (first, snapshot) →
    last.snapshot = snapshot ∨ snapshot.sequence < last.snapshot.sequence
  /-- If it still waits and there is a snapshot, it can be told so at once, whatever others do. -/
  toldReady : verdicts = [] → seen ≠ [] → ∃ later next, (∀ action ∈ later, action.Internal) ∧
    last.run later = some next ∧
      asked.trail (verdict? caller) (.await caller timeout :: (after ++ later)) = [(true, last.now)]
  /-- If it still waits and there is none, it can be told so when its time is over, whatever others do. -/
  toldLate : verdicts = [] → seen = [] → ∃ later next, (∀ action ∈ later, action.Internal) ∧
    last.run later = some next ∧
      asked.trail (verdict? caller) (.await caller timeout :: (after ++ later)) = [(false, limit)]
  /-- As long as it waits the client cannot be dropped. -/
  keeps : verdicts = [] → last.step .drop = none
  /-- It is never told that the client is gone. -/
  stays : ∀ verdict ∈ verdicts, readyResult verdict.1 ≠ .error .closed

/-- Every caller that waits for the first snapshot is told by the first publication and by the end of its time
alone. -/
theorem told_in_time (config : Config) (timerStep : Nat) (before after : List Action) (caller : Nat)
    (timeout : Duration) (asked last : Client) (sound : config.validate = .ok ())
    (called : HasAsked config timerStep before caller timeout after asked last) :
    ToldInTime caller timeout after asked last (asked.timer timeout)
      ((initial config timerStep).trail publication? before)
      ((initial config timerStep).trail publication? (before ++ .await caller timeout :: after))
      (asked.trail (verdict? caller) (.await caller timeout :: after)) := by
  have awaiting := called.awaiting
  have reached := run_trans called.reached called.ran
  have soundLast : last.config.validate = .ok () := (config_run reached).1 ▸ sound
  have orderly := (orderly_initial config timerStep).run reached
  constructor
  case named => exact timer_bounds
  case whole =>
    intro named whole
    have timer : Instant.timer asked.now timeout = asked.now + timeout.nanos := by
      simp [Instant.timer, Instant.after?, named]
    rw [Client.timer, timer]
    exact roundUp_of_dvd whole
  case once => exact awaiting.once
  case recorded => exact called.recorded
  case ready => exact awaiting.told
  case late =>
    intro instant member
    obtain ⟨same, none, _, later⟩ := awaiting.late instant member
    exact ⟨same, none, later⟩
  case waits => exact fun waits => (awaiting.inTime waits).2
  case visible => exact awaiting.published.newest
  case toldReady =>
    intro waits some
    rw [waits] at awaiting
    obtain ⟨later, next, own, ran, told⟩ := exists_verdict soundLast orderly awaiting
    rw [awaiting.published.ready.mpr some, if_pos rfl] at told
    refine ⟨later, next, own, ran, ?_⟩
    rw [called.trail_append, waits, told, List.nil_append]
  case toldLate =>
    intro waits none
    rw [waits] at awaiting
    have unready : last.isReady = false := by
      by_contra shown
      exact awaiting.published.ready.mp (by simpa using shown) none
    obtain ⟨later, next, own, ran, told⟩ := exists_verdict soundLast orderly awaiting
    rw [unready, if_neg Bool.false_ne_true] at told
    refine ⟨later, next, own, ran, ?_⟩
    rw [called.trail_append, waits, told, List.nil_append]
  case keeps =>
    intro waits
    have once := awaiting.once
    have some : last.waiters ≠ [] := by
      intro none
      simp [waits, waitsOf, none] at once
    simp [step, drop?, some]
  case stays =>
    rintro ⟨ready, _⟩ _
    cases ready <;> simp [readyResult]

/-- The first fetch of a client is in flight. -/
def firstFetch : List Action := [.call 0 .start, .takeLock, .resume]

/-- While a caller waits another one gives up, the first poll fails, the client is started once more, and the second
poll brings a set. -/
def secondFetch : List Action :=
  [.await 8 .zero, .giveUp 8, .elapse 1000000000, .answer (.error .unauthorized) .half, .call 1 .start, .takeLock,
    .elapse 29000000000, .resume, .elapse 5000000, .answer (.ok ⟨.empty, some "v1"⟩) .half, .notice]

/-- A caller that gives the client a minute is told at the end of the second poll. -/
theorem told_in_time_secondFetch :
    ∃ asked last, HasAsked .default 1000000 firstFetch 7 (.ofMillis 60000) secondFetch asked last ∧
      asked.trail (verdict? 7) (.await 7 (.ofMillis 60000) :: secondFetch) = [(true, 30005000000)] ∧
      last.answersTo 7 = [true] ∧ last.waitsOf 7 = 0 ∧ asked.timer (.ofMillis 60000) = 60000000000 := by
  have called : HasAsked .default 1000000 firstFetch 7 (.ofMillis 60000) secondFetch _ _ :=
    ⟨rfl, rfl, by simp [firstFetch, secondFetch]⟩
  have told := told_in_time .default 1000000 firstFetch secondFetch 7 (.ofMillis 60000) _ _ rfl called
  exact ⟨_, _, called, rfl, told.recorded, Nat.add_left_cancel told.once,
    told.whole (by decide) (by decide)⟩

/-- A caller that gives the client a millisecond and a half. -/
def hurriedWait : Action := .await 7 hurried.fetchTimeout

/-- With timers that run out at whole milliseconds the caller gives up half a millisecond after its time is over, and
a snapshot that is published in between is still in time. -/
theorem wait_outlasts_timeout :
    (∃ client, (initial .default 1000000).run [hurriedWait, .elapse 1500000] = some client ∧
      client.step (.giveUp 7) = none) ∧
    (∃ client, (initial .default 1000000).run [hurriedWait, .elapse 2000000, .giveUp 7] = some client ∧
      (initial .default 1000000).trail (verdict? 7) [hurriedWait, .elapse 2000000, .giveUp 7] =
        [(false, 2000000)]) ∧
    ∃ client, (initial .default 1000000).run
        [hurriedWait, .elapse 1700000, .publish ⟨.empty, .epoch, none, 1⟩, .notice] = some client ∧
      (initial .default 1000000).trail (verdict? 7)
        [hurriedWait, .elapse 1700000, .publish ⟨.empty, .epoch, none, 1⟩, .notice] = [(true, 1700000)] :=
  ⟨⟨_, rfl, rfl⟩, ⟨_, rfl, rfl⟩, _, rfl, rfl⟩

end LiveFlags.Client
