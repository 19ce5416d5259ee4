import LiveFlags.Proofs.Client.Numbering
import LiveFlags.Proofs.Client.Timing

/-!
# Calls and the lock

As long as callers run to completion the calls of a client return in the order in which they were made
(`returned_append_pending_run`). Every pending call can return without the help of the source or of
another caller (`calls_return`), and time does not wait for anything else: a call that is pending once the
client has been stopped has returned by the deadline of the fetch in flight, or at once if there is none
(`returned_in_time`).
-/
namespace LiveFlags

/-- The action lets every caller run to completion and leaves the store to the poll task. -/
def Action.Undisturbed : Action → Prop
  | .abandon _ | .publish _ => False
  | _ => True

/-- The action leaves the store to the poll task. -/
def Action.Unpublished : Action → Prop
  | .publish _ => False
  | _ => True

/-- Actions that let every caller run to completion leave the store to the poll task. -/
theorem unpublished_of_undisturbed {actions : List Action}
    (undisturbed : ∀ action ∈ actions, action.Undisturbed) : ∀ action ∈ actions, action.Unpublished := by
  intro action member
  cases action with
  | publish snapshot => exact (undisturbed _ member).elim
  | _ => trivial

/-- The action is one of the client itself: no caller, no owner and no source has to do anything. -/
def Action.Internal : Action → Prop
  | .takeLock | .drained | .resume | .cutOff _ | .notice | .giveUp _ | .elapse _ => True
  | _ => False

/-- Who has called along a list of actions, in order. -/
def callers (actions : List Action) : List Nat :=
  actions.filterMap fun
    | .call caller _ => some caller
    | _ => none

namespace Client

/-- Who waits for a call to return, in the order in which the lock is given out. -/
def pending (client : Client) : List Nat := client.draining.toList ++ client.queue.map (·.1)

/-- Whose calls have done their work, in the order in which they have returned. -/
def returned (client : Client) : List Nat :=
  (client.answered.toList.filter (·.2 = .done)).map (·.1)

/-- The instant by which the lock is free: the deadline of the fetch in flight, or the present. -/
def drainLimit (client : Client) : Instant :=
  match client.task with
  | .fetching _ cutOff => cutOff
  | _ => client.now

variable {client next : Client} {action : Action} {actions : List Action}

/-- A start does not panic as long as nobody else publishes. -/
theorem exists_successor_of_idle (numbered : Numbered client) (idle : client.guarded = .idle) :
    ∃ sequence, successor? client.store.current.sequence = some sequence := by
  rw [numbered.unpublished idle]
  exact ⟨1, rfl⟩

/-- A step returns the first of the pending calls, or adds one at the end. -/
theorem returned_append_pending_step (numbered : Numbered client) (undisturbed : action.Undisturbed)
    (stepped : client.step action = some next) :
    next.returned ++ next.pending = client.returned ++ client.pending ++ callers [action] := by
  cases transition_of_step stepped with
  | startFails _ _ _ _ idle last =>
    obtain ⟨sequence, counts⟩ := exists_successor_of_idle numbered idle
    rw [last] at counts
    contradiction
  | calls caller request => simp [returned, pending, callers]
  | refuses caller => simp [returned, pending, callers]
  | starts caller rest free head | startsAgain caller rest free head | stopsIdle caller rest free head
  | stopsAgain caller rest free head | cancels caller rest free head =>
    simp [returned, pending, callers, free, head]
  | drains caller how holds past => simp [returned, pending, callers, holds]
  | leavesDrain | leavesQueue | publishes => exact undisturbed.elim
  | exits | begins | answers | cutsOff | overflows | panics | awaits | notices | givesUp | elapses
  | dropsRunning | dropsOther => simp [returned, pending, callers, beginPoll]

/-- Calls return in the order in which they were made, and those that have not returned are pending. -/
theorem returned_append_pending_run (orderly : Orderly client) (numbered : Numbered client)
    (undisturbed : ∀ action ∈ actions, action.Undisturbed) (ran : client.run actions = some next) :
    next.returned ++ next.pending = client.returned ++ client.pending ++ callers actions := by
  induction actions generalizing client with
  | nil =>
    obtain rfl := Option.some.inj ran
    simp [callers]
  | cons action actions ih =>
    obtain ⟨middle, stepped, ran⟩ := run_cons ran
    obtain ⟨here, later⟩ := List.forall_mem_cons.mp undisturbed
    have alone : ∀ snapshot, action ≠ .publish snapshot := by
      rintro snapshot rfl
      exact here
    rw [ih (orderly_step stepped orderly) (numbered_step orderly alone stepped numbered) later ran,
      returned_append_pending_step numbered here stepped, List.append_assoc]
    congr 1
    exact (List.filterMap_append (l := [action])).symm

/-- While a call is pending time passes only for a fetch in flight whose outcome a stop waits for, and
not beyond its deadline. -/
theorem elapses_for_fetch {nanos : Nat} (orderly : Orderly client)
    (stepped : client.step (.elapse nanos) = some next) (waits : client.pending ≠ []) (passes : 0 < nanos) :
    client.guarded = .stopped ∧ ∃ started cutOff, client.task = .fetching started cutOff ∧
      client.now + nanos ≤ cutOff := by
  cases transition_of_step stepped with
  | elapses nanos inTime =>
    cases holds : client.draining with
    | none =>
      -- a call at the head of the queue can take the lock at once
      have due : client.lockDue = true := by
        cases head : client.queue with
        | nil => simp [pending, holds, head] at waits
        | cons call rest => simp [lockDue, holds, head]
      have still := elapsed_zero_of_lockDue inTime due
      omega
    | some caller =>
      obtain ⟨stopped, present⟩ := orderly.draining caller holds
      have told := (orderly.stopped stopped).resolve_left present
      refine ⟨stopped, ?_⟩
      cases task : client.task with
      | absent => exact absurd task present
      | fetching started cutOff =>
        exact ⟨started, cutOff, rfl, le_of_taskDue inTime (by simp [taskDue?, task])⟩
      | queued | sleeping wake =>
        have still : client.now + nanos ≤ client.now := le_of_taskDue inTime (by simp [taskDue?, task, told])
        exact absurd (Nat.lt_of_lt_of_le (Nat.lt_add_of_pos_right passes) still) (Nat.lt_irrefl _)
      | ended how =>
        have still := elapsed_zero_of_lockDue inTime (by simp [lockDue, holds, task])
        omega

/-- Some waiting caller is the first to give up. -/
theorem exists_first_waiter {waiters : List Waiter} (some : waiters ≠ []) :
    ∃ first ∈ waiters, ∀ waiter ∈ waiters, first.givesUp ≤ waiter.givesUp := by
  cases found : (waiters.map Waiter.givesUp).min? with
  | none => simp [some] at found
  | some earliest =>
    obtain ⟨member, least⟩ := List.min?_eq_some_iff.mp found
    obtain ⟨first, inside, rfl⟩ := List.mem_map.mp member
    exact ⟨first, inside, fun waiter waits => least _ (List.mem_map_of_mem waits)⟩

/-- A caller whose time is over can give up if there is no snapshot. -/
theorem giveUp_of_late {waiter : Waiter} (waits : waiter ∈ client.waiters)
    (late : waiter.givesUp ≤ client.now) (unready : client.isReady = false) :
    ∃ left readiness, left.length < client.waiters.length ∧
      client.step (.giveUp waiter.caller) = some { client with waiters := left, readiness := readiness } := by
  cases found : client.waiters.find? fun other =>
      other.caller = waiter.caller ∧ other.givesUp ≤ client.now with
  | none =>
    have missed := List.find?_eq_none.mp found waiter waits
    simp [late] at missed
  | some leaver =>
    refine ⟨client.waiters.erase leaver, client.readiness.push (waiter.caller, false), ?_, ?_⟩
    · rw [List.length_erase_of_mem (List.mem_of_find?_eq_some found)]
      exact Nat.sub_lt (List.length_pos_of_mem waits) Nat.one_pos
    · simp only [step, giveUp?]
      rw [found]
      simp [unready]

/-- Time can pass up to an instant if nothing is due before it. -/
theorem elapse_to {instant : Instant} (future : client.now ≤ instant)
    (inTime : ∀ due ∈ client.dues, instant ≤ due) :
    client.step (.elapse (instant - client.now)) = some { client with now := instant } := by
  have reached : client.now + (instant - client.now) = instant := Nat.add_sub_cancel' future
  simp only [step, elapse?, reached]
  rw [if_pos (by simpa using inTime)]

/-- The task waits for an instant, and no call can go on with the lock meanwhile. -/
def AwaitsUntil (client : Client) (limit : Instant) : Prop :=
  ((∃ started, client.task = .fetching started limit) ∨
    (client.task = .sleeping limit ∧ client.cancelled = false)) ∧ client.lockDue = false

/-- A stop that waits for a fetch waits until its deadline. -/
theorem awaitsUntil_of_draining {started cutOff : Instant} {caller : Nat}
    (fetching : client.task = .fetching started cutOff) (holds : client.draining = some caller) :
    AwaitsUntil client cutOff :=
  ⟨.inl ⟨started, fetching⟩, by simp [lockDue, holds, fetching]⟩

/-- While the task waits for an instant only the callers that wait for the first snapshot can stop the
time before. -/
theorem le_dues_of_awaitsUntil {limit instant : Instant} (awaits : AwaitsUntil client limit)
    (early : instant ≤ limit) (calm : ∀ waiter ∈ client.waiters,
      instant ≤ if client.isReady then client.now else waiter.givesUp) :
    ∀ due ∈ client.dues, instant ≤ due := by
  obtain ⟨task, locked⟩ := awaits
  have goesOnThen : client.taskDue? = some limit := by
    rcases task with ⟨started, fetching⟩ | ⟨sleeping, untold⟩
    · simp [taskDue?, fetching]
    · simp [taskDue?, sleeping, untold]
  intro due member
  rcases mem_dues.mp member with goesOn | ⟨goesOn, _⟩ | ⟨waiter, waits, rfl⟩
  · obtain rfl := Option.some.inj (goesOnThen.symm.trans goesOn)
    exact early
  · rw [locked] at goesOn
    contradiction
  · exact calm waiter waits

/-- If there is no snapshot the first waiting caller whose time is over before an instant can leave by
then, as long as nothing else is due. -/
theorem waiter_leaves {waiter : Waiter} {limit : Instant} (unready : client.isReady = false)
    (waits : waiter ∈ client.waiters) (early : waiter.givesUp < limit) (inTime : client.now ≤ limit)
    (calm : ∀ instant ≤ limit, (∀ other ∈ client.waiters, instant ≤ other.givesUp) →
      ∀ due ∈ client.dues, instant ≤ due) :
    ∃ later instant left readiness, (∀ action ∈ later, action.Internal) ∧ instant ≤ limit ∧
      client.run later = some { client with now := instant, waiters := left, readiness := readiness } ∧
      left.length < client.waiters.length := by
  obtain ⟨first, inside, least⟩ := exists_first_waiter (List.ne_nil_of_mem waits)
  have soon : first.givesUp ≤ limit := Nat.le_of_lt (Nat.lt_of_le_of_lt (least waiter waits) early)
  by_cases late : first.givesUp ≤ client.now
  · obtain ⟨left, readiness, fewer, stepped⟩ := giveUp_of_late inside late unready
    refine ⟨[.giveUp first.caller], client.now, left, readiness, by simp [Action.Internal], inTime, ?_,
      fewer⟩
    rw [run, stepped]
    rfl
  · have future : client.now ≤ first.givesUp := Nat.le_of_not_le late
    obtain ⟨left, readiness, fewer, stepped⟩ :=
      @giveUp_of_late { client with now := first.givesUp } first inside (Nat.le_refl _) unready
    refine ⟨[.elapse (first.givesUp - client.now), .giveUp first.caller], first.givesUp, left, readiness,
      by simp [Action.Internal], soon, ?_, fewer⟩
    rw [run, elapse_to future (calm _ soon least)]
    simp only [Option.bind_some, run, stepped]

/-- While the task waits for an instant, time can pass up to that instant unless a caller that waits for
the first snapshot can leave before. -/
theorem reaches_or_leaves {limit : Instant} (awaits : AwaitsUntil client limit)
    (inTime : client.now ≤ limit) :
    ∃ later instant left readiness, (∀ action ∈ later, action.Internal) ∧ instant ≤ limit ∧
      client.run later = some { client with now := instant, waiters := left, readiness := readiness } ∧
      (instant = limit ∨ left.length < client.waiters.length) := by
  by_cases stops : ∃ waiter ∈ client.waiters,
      (if client.isReady then client.now else waiter.givesUp) < limit
  · obtain ⟨waiter, waits, early⟩ := stops
    by_cases ready : client.isReady = true
    · obtain ⟨first, rest, waiting⟩ := List.exists_cons_of_ne_nil (List.ne_nil_of_mem waits)
      refine ⟨[.notice], client.now, rest, client.readiness.push (first.caller, true),
        by simp [Action.Internal], inTime, ?_, .inr (by simp [waiting])⟩
      simp [run, step, notice?, waiting, ready]
    · have unready : client.isReady = false := by simpa using ready
      have calm : ∀ instant ≤ limit, (∀ other ∈ client.waiters, instant ≤ other.givesUp) →
          ∀ due ∈ client.dues, instant ≤ due := by
        intro instant early late
        exact le_dues_of_awaitsUntil awaits early (by simpa [unready] using late)
      rw [if_neg ready] at early
      obtain ⟨later, instant, left, readiness, own, soon, ran, fewer⟩ :=
        waiter_leaves unready waits early inTime calm
      exact ⟨later, instant, left, readiness, own, soon, ran, .inr fewer⟩
  · have calm : ∀ waiter ∈ client.waiters,
        limit ≤ if client.isReady then client.now else waiter.givesUp := by
      intro waiter waits
      exact Nat.le_of_not_lt fun early => stops ⟨waiter, waits, early⟩
    refine ⟨[.elapse (limit - client.now)], limit, client.waiters, client.readiness,
      by simp [Action.Internal], Nat.le_refl _, ?_, .inl rfl⟩
    rw [run, elapse_to inTime (le_dues_of_awaitsUntil awaits (Nat.le_refl _) calm)]
    rfl

/-- Time can pass up to the instant that the task waits for, whoever waits for the first snapshot
meanwhile. -/
theorem reaches_of_awaitsUntil {limit : Instant} (awaits : AwaitsUntil client limit)
    (inTime : client.now ≤ limit) :
    ∃ later left readiness, (∀ action ∈ later, action.Internal) ∧
      client.run later =
        some { client with now := limit, waiters := left, readiness := readiness } := by
  -- the waiting callers leave one by one until none is due before the instant
  induction count : client.waiters.length using Nat.strongRecOn generalizing client with
  | ind count ih =>
  subst count
  obtain ⟨first, instant, left, readiness, own, early, ran, reached | fewer⟩ :=
    reaches_or_leaves awaits inTime
  · subst reached
    exact ⟨first, left, readiness, own, ran⟩
  · obtain ⟨rest, left', readiness', owns, ran'⟩ :=
      @ih _ fewer { client with now := instant, waiters := left, readiness := readiness } awaits early rfl
    refine ⟨first ++ rest, left', readiness', ?_, ?_⟩
    · intro action member
      exact (List.mem_append.mp member).elim (own action) (owns action)
    · rw [run_append, ran]
      exact ran'

/-- A task that is over and was there has ended. -/
theorem exists_ended {task : Task} (present : task ≠ .absent) (past : task.isOver = true) :
    ∃ how, task = .ended how := by
  cases task with
  | absent => exact absurd rfl present
  | ended how => exact ⟨how, rfl⟩
  | queued | fetching | sleeping => simp [Task.isOver] at past

/-- A fetch that is cut off takes a task that has been told to stop to its end. -/
theorem cutOff_ends {started cutOff : Instant} (fetching : client.task = .fetching started cutOff)
    (late : cutOff ≤ client.now) (told : client.cancelled = true) :
    ∃ next how, client.step (.cutOff .half) = some next ∧ next.task = .ended how ∧
      next.draining = client.draining ∧ next.queue = client.queue ∧ next.now = client.now := by
  have left := client.isOver_taskAfter started .half
  obtain ⟨how, ended⟩ := exists_ended left.1 (left.2 told)
  refine ⟨client.finishPoll (.failure .timeout) started .half, how, ?_, ?_, ?_, ?_, ?_⟩
  · simp [step, cutOff?, fetching, late]
  · rw [finishPoll_eq]
    exact ended
  all_goals rw [finishPoll_eq]

/-- A task that has been told to stop can come to its end by the deadline of its fetch. -/
theorem task_ends {caller : Nat} (orderly : Orderly client) (punctual : Punctual client)
    (holds : client.draining = some caller) :
    ∃ later next how, (∀ action ∈ later, action.Internal) ∧ client.run later = some next ∧
      next.task = .ended how ∧ next.draining = client.draining ∧ next.queue = client.queue ∧
      next.now = client.drainLimit := by
  obtain ⟨stopped, present⟩ := orderly.draining caller holds
  have told := (orderly.stopped stopped).resolve_left present
  cases task : client.task with
  | absent => exact absurd task present
  | ended how => exact ⟨[], client, how, by simp, rfl, task, rfl, rfl, by simp [drainLimit, task]⟩
  | queued =>
    refine ⟨[.resume], client.exitLoop, .finished, by simp [Action.Internal], ?_, rfl, rfl, rfl, ?_⟩
    · simp [run, step, resume?, task, told]
    · simp [drainLimit, task, exitLoop, logging]
  | sleeping wake =>
    refine ⟨[.resume], client.exitLoop, .finished, by simp [Action.Internal], ?_, rfl, rfl, rfl, ?_⟩
    · simp [run, step, resume?, task, told]
    · simp [drainLimit, task, exitLoop, logging]
  | fetching started cutOff =>
    obtain ⟨later, left, readiness, own, ran⟩ :=
      reaches_of_awaitsUntil (awaitsUntil_of_draining task holds) (punctual started cutOff task).2.2
    obtain ⟨next, how, stepped, ended, draining, queue, now⟩ :=
      @cutOff_ends { client with now := cutOff, waiters := left, readiness := readiness } _ _ task
        (Nat.le_refl _) told
    refine ⟨later ++ [.cutOff .half], next, how, ?_, ?_, ended, draining, queue, ?_⟩
    · simpa [or_imp, forall_and, Action.Internal] using own
    · rw [run_append, ran]
      simp only [Option.bind_some, run, stepped]
    · simp [drainLimit, task, now]

/-- A stop that holds the lock can return by the deadline of the fetch in flight. -/
theorem stop_returns {caller : Nat} (orderly : Orderly client) (punctual : Punctual client)
    (holds : client.draining = some caller) :
    ∃ later next, (∀ action ∈ later, action.Internal) ∧ client.run later = some next ∧
      next.draining = none ∧ next.queue = client.queue ∧ next.drainLimit = client.drainLimit := by
  obtain ⟨later, middle, how, own, ran, ended, draining, queue, now⟩ := task_ends orderly punctual holds
  rw [holds] at draining
  refine ⟨later ++ [.drained], { middle with
    draining := none
    status := .stopped
    log := middle.log ++ drainedEvents how
    answered := middle.answered.push (caller, .done) }, ?_, ?_, rfl, queue, ?_⟩
  · simpa [or_imp, forall_and, Action.Internal] using own
  · rw [run_append, ran]
    simp [run, step, drained?, draining, ended, logging, answer]
  · simpa [drainLimit, ended] using now

/-- The first call in the queue can take the lock if it is free, and that takes no time. -/
theorem takeLock_of_pending {call : Nat × Request} {rest : List (Nat × Request)}
    (orderly : Orderly client) (free : client.draining = none) (head : client.queue = call :: rest) :
    ∃ next, client.step .takeLock = some next ∧
      next.queue = rest ∧ next.drainLimit = client.drainLimit := by
  obtain ⟨caller, request⟩ := call
  have taken : ∃ next, client.step .takeLock = some next := by
    cases request <;> simp [step, takeLock?, free, head]
  obtain ⟨next, stepped⟩ := taken
  refine ⟨next, stepped, ?_⟩
  cases transition_of_step stepped with
  | starts _ _ _ head' idle =>
    have absent := (orderly.idle idle).1
    simp_all [drainLimit]
  | startFails _ _ _ head' | startsAgain _ _ _ head' | cancels _ _ _ head' | stopsIdle _ _ _ head'
  | stopsAgain _ _ _ head' => simp_all [drainLimit]

/-- The present is no later than the instant by which the lock is free. -/
theorem now_le_drainLimit (punctual : Punctual client) : client.now ≤ client.drainLimit := by
  unfold drainLimit
  split
  · rename_i started cutOff fetching
    exact (punctual started cutOff fetching).2.2
  · exact Nat.le_refl _

/-- The lock is free at once unless a fetch is in flight. -/
theorem drainLimit_of_calm (calm : ∀ started cutOff, client.task ≠ .fetching started cutOff) :
    client.drainLimit = client.now := by
  unfold drainLimit
  split
  · rename_i started cutOff fetching
    exact absurd fetching (calm started cutOff)
  · rfl

/-- The lock can become free by the deadline of the fetch in flight. -/
theorem lock_returns (orderly : Orderly client) (punctual : Punctual client) :
    ∃ later next, (∀ action ∈ later, action.Internal) ∧ client.run later = some next ∧
      next.draining = none ∧ next.queue = client.queue ∧ next.drainLimit = client.drainLimit := by
  cases holds : client.draining with
  | none => exact ⟨[], client, by simp, rfl, holds, rfl, rfl⟩
  | some caller => exact stop_returns orderly punctual holds

/-- Every pending call can end by the deadline of the fetch in flight, without any help of the source, of
the owner or of other callers. -/
theorem calls_return (orderly : Orderly client) (punctual : Punctual client) :
    ∃ later next, (∀ action ∈ later, action.Internal) ∧ client.run later = some next ∧
      next.pending = [] ∧ next.now ≤ client.drainLimit := by
  induction calls : client.queue generalizing client with
  | nil =>
    obtain ⟨later, next, own, ran, free, queue, limit⟩ := lock_returns orderly punctual
    refine ⟨later, next, own, ran, ?_, ?_⟩
    · simp [pending, free, queue, calls]
    · rw [← limit]
      exact now_le_drainLimit (punctual.run ran)
  | cons call rest ih =>
    obtain ⟨first, middle, own, ran, free, queue, limit⟩ := lock_returns orderly punctual
    obtain ⟨taken, stepped, left, limit'⟩ :=
      takeLock_of_pending (orderly.run ran) free (queue.trans calls)
    obtain ⟨later, next, owns, ran', done, inTime⟩ :=
      ih (orderly_step stepped (orderly.run ran)) (punctual_step stepped (punctual.run ran)) left
    refine ⟨first ++ .takeLock :: later, next, ?_, ?_, done, ?_⟩
    · intro action member
      rcases List.mem_append.mp member with member | member
      · exact own action member
      · exact List.forall_mem_cons.mpr ⟨trivial, owns⟩ action member
    · rw [run_append, ran]
      simpa [run, stepped] using ran'
    · rw [← limit, ← limit']
      exact inTime

/-- Once the client has been stopped, a step does not move the instant by which the lock is free as long
as a call is pending. -/
theorem drainLimit_step (orderly : Orderly client) (punctual : Punctual client)
    (stopped : client.guarded = .stopped) (waits : client.pending ≠ [])
    (stepped : client.step action = some next) : next.drainLimit ≤ client.drainLimit := by
  have unchanged := stepped
  have present := now_le_drainLimit punctual
  cases transition_of_step stepped with
  | starts _ _ _ _ idle => simp [stopped] at idle
  | dropsRunning _ running => simp [stopped] at running
  | begins due untold =>
    exact absurd ((orderly.stopped stopped).resolve_right (by simp [untold])) (rested_of_due due).1
  | exits => exact present
  | overflows | panics => exact present
  | answers | cutsOff =>
    rw [drainLimit_of_calm (taskAfter_ne_fetching client _ _)]
    exact present
  | elapses nanos inTime =>
    by_cases passes : 0 < nanos
    · obtain ⟨_, started, cutOff, fetching, _⟩ := elapses_for_fetch orderly unchanged waits passes
      simp [drainLimit, fetching]
    · obtain rfl := Nat.eq_zero_of_not_pos passes
      exact Nat.le_refl _
  | calls | refuses | startFails | startsAgain | cancels | stopsIdle | stopsAgain | drains | leavesDrain
  | leavesQueue | publishes | awaits | notices | givesUp | dropsOther => exact Nat.le_refl _

/-- Once the client has been stopped, a call that is pending has returned by the deadline of the fetch in
flight, at once if there is none. -/
theorem returned_in_time (orderly : Orderly client) (punctual : Punctual client)
    (stopped : client.guarded = .stopped) (ran : client.run actions = some next) {limit : Instant}
    (bound : client.drainLimit ≤ limit) :
    next.now ≤ limit ∨ ∃ before after middle, actions = before ++ after ∧
      client.run before = some middle ∧ middle.pending = [] ∧ middle.now ≤ limit := by
  have present := Nat.le_trans (now_le_drainLimit punctual) bound
  induction actions generalizing client with
  | nil =>
    obtain rfl := Option.some.inj ran
    exact .inl present
  | cons action actions ih =>
    by_cases waits : client.pending = []
    · exact .inr ⟨[], action :: actions, client, rfl, rfl, waits, present⟩
    · obtain ⟨middle, stepped, ran⟩ := run_cons ran
      have bound' := Nat.le_trans (drainLimit_step orderly punctual stopped waits stepped) bound
      have punctual' := punctual_step stepped punctual
      rcases ih (orderly_step stepped orderly) punctual' (stopped_step stepped stopped) ran bound'
        (Nat.le_trans (now_le_drainLimit punctual') bound') with inTime | returned
      · exact .inl inTime
      · obtain ⟨before, after, last, rfl, ran, done, inTime⟩ := returned
        refine .inr ⟨action :: before, after, last, rfl, ?_, done, inTime⟩
        rw [run, stepped]
        exact ran

end Client

end LiveFlags
