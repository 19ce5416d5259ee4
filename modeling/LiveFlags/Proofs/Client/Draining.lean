import LiveFlags.Proofs.Client.Calls

/-!
# Stopping drains once and freezes the client

A stop tells the task to stop, waits for the fetch in flight and returns once its outcome has been
applied. `Drains` says what this guarantees in a state, for all that can happen from it on;
`stop_drains_once` says that every state is like this that can be reached while callers run to completion.
The argument goes through three kinds of states. A task that has been told to stop begins no fetch
(`cancelled_step`). While such a task waits for a fetch nothing is recorded until the fetch ends, and that
freezes the client (`fetching_step`). In a frozen client nothing is recorded any more (`frozen_run`), as in
every client in which no fetch is in flight and none can begin (`spent_run`).
-/
namespace LiveFlags.Client

/-- Whose stop a step returns, if it returns one. -/
def stopReturn? (client : Client) : Action → Option Nat
  | .drained => client.draining
  | .takeLock =>
    match client.draining, client.queue with
    | none, (caller, .stop) :: _ => if client.guarded = .running then none else some caller
    | _, _ => none
  | _ => none

/-- The store and the counters after a poll that comes to its end at an instant. -/
def settled (client : Client) (instant : Instant) : PollEnd → Store × Tracker
  | .published snapshot =>
    (client.store.publish snapshot,
      client.tracker.recordSuccess snapshot.flagCount (.ofNanos instant) instant)
  | .failed failure => (client.store, client.tracker.recordFailure failure)
  | .discarded _ | .panicked => (client.store, client.tracker)

/-- The client has been stopped and its task is over. -/
def Frozen (client : Client) : Prop := client.guarded = .stopped ∧ client.task.isOver = true

/-- No fetch is in flight, and none can begin. -/
structure Spent (client : Client) : Prop where
  /-- The client has been started or stopped. -/
  taken : client.guarded ≠ .idle
  /-- The task is over or has been told to stop. -/
  told : client.task.isOver = true ∨ client.cancelled = true
  /-- The task waits for no fetch. -/
  calm : ∀ started cutOff, client.task ≠ .fetching started cutOff

/-- What readers and the source have seen of the polls is the same in both states. -/
def SameRecord (client next : Client) : Prop :=
  next.store = client.store ∧ next.tracker = client.tracker ∧ next.fetches = client.fetches

variable {client next : Client} {action : Action} {actions : List Action}

theorem SameRecord.trans {middle : Client} (first : SameRecord client middle)
    (last : SameRecord middle next) : SameRecord client next :=
  ⟨last.1.trans first.1, last.2.1.trans first.2.1, last.2.2.trans first.2.2⟩

/-- Nothing is recorded in a spent client. It stays spent, and a task that is over stays over. -/
theorem spent_step (unpublished : action.Unpublished) (stepped : client.step action = some next)
    (spent : Spent client) :
    (Spent next ∧ (client.task.isOver = true → next.task.isOver = true)) ∧ SameRecord client next ∧
      client.pollEnd? action = none := by
  have unchanged := spent
  obtain ⟨taken, told, calm⟩ := spent
  cases transition_of_step stepped with
  | starts _ _ _ _ idle | startFails _ _ _ _ idle => exact absurd idle taken
  | cancels =>
    exact ⟨⟨⟨by simp, .inr rfl, calm⟩, id⟩, ⟨rfl, rfl, rfl⟩, by simp [pollEnd?]⟩
  | stopsIdle _ _ _ _ idle => exact absurd idle taken
  | exits woken =>
    exact ⟨⟨⟨taken, .inl rfl, by simp⟩, fun _ => rfl⟩, ⟨rfl, rfl, rfl⟩, by simp [pollEnd?]⟩
  | begins due untold => simp [untold, (rested_of_due due).2.1] at told
  | answers _ _ started cutOff fetching | cutsOff _ started cutOff fetching
  | overflows _ _ started cutOff fetching | panics started cutOff fetching =>
    exact absurd fetching (calm started cutOff)
  | publishes => exact unpublished.elim
  | dropsRunning =>
    refine ⟨⟨⟨taken, .inr rfl, abortTask_ne_fetching _⟩, fun past => ?_⟩, ⟨rfl, rfl, rfl⟩,
      by simp [pollEnd?]⟩
    cases task : client.task <;> simp_all [abortTask, Task.isOver]
  | calls | refuses | startsAgain | stopsAgain | drains | leavesDrain | leavesQueue | awaits | notices
  | givesUp | elapses | dropsOther =>
    exact ⟨⟨⟨taken, told, calm⟩, id⟩, ⟨rfl, rfl, rfl⟩, by simp [pollEnd?]⟩

/-- Nothing is ever recorded again in a spent client. -/
theorem spent_run (unpublished : ∀ action ∈ actions, action.Unpublished)
    (ran : client.run actions = some next) (spent : Spent client) :
    (Spent next ∧ (client.task.isOver = true → next.task.isOver = true)) ∧ SameRecord client next ∧
      client.pollEnds actions = [] := by
  induction actions generalizing client with
  | nil =>
    obtain rfl := Option.some.inj ran
    exact ⟨⟨spent, id⟩, ⟨rfl, rfl, rfl⟩, rfl⟩
  | cons action actions ih =>
    obtain ⟨middle, stepped, ran⟩ := run_cons ran
    obtain ⟨here, later⟩ := List.forall_mem_cons.mp unpublished
    obtain ⟨⟨spent', past⟩, same, quiet⟩ := spent_step here stepped spent
    obtain ⟨⟨last, past'⟩, same', quiet'⟩ := ih later ran spent'
    refine ⟨⟨last, past' ∘ past⟩, same.trans same', ?_⟩
    rw [pollEnds_cons stepped, quiet, quiet']
    rfl

/-- A frozen client is spent. -/
theorem Frozen.spent (frozen : Frozen client) : Spent client where
  taken := by simp [frozen.1]
  told := .inl frozen.2
  calm := by
    intro started cutOff fetching
    have past := frozen.2
    simp [fetching, Task.isOver] at past

/-- Nothing is ever recorded again in a frozen client, and it stays frozen. -/
theorem frozen_run (unpublished : ∀ action ∈ actions, action.Unpublished)
    (ran : client.run actions = some next) (frozen : Frozen client) :
    Frozen next ∧ SameRecord client next ∧ client.pollEnds actions = [] := by
  obtain ⟨⟨_, past⟩, same, quiet⟩ := spent_run unpublished ran frozen.spent
  have stays := run_keeps (fun middle => middle.guarded = .stopped) (fun _ => True)
    (fun _ => stopped_step) (fun _ _ => trivial) ran frozen.1
  exact ⟨⟨stays, past frozen.2⟩, same, quiet⟩

/-- A task that has been told to stop begins no fetch and is never told otherwise. -/
theorem cancelled_step (orderly : Orderly client) (stepped : client.step action = some next)
    (told : client.cancelled = true) : next.cancelled = true ∧ next.fetches = client.fetches := by
  cases transition_of_step stepped with
  | starts _ _ _ _ idle => simp [(orderly.idle idle).2.1] at told
  | begins due untold => simp [untold] at told
  | cancels | dropsRunning => exact ⟨rfl, rfl⟩
  | _ => exact ⟨told, rfl⟩

/-- Once the task has been told to stop no fetch begins any more. -/
theorem cancelled_run (orderly : Orderly client) (ran : client.run actions = some next)
    (told : client.cancelled = true) : next.fetches = client.fetches := by
  have kept := run_keeps_of_orderly
    (fun middle => middle.cancelled = true ∧ middle.fetches = client.fetches) (fun _ => True)
    (fun orderly _ stepped held => by
      obtain ⟨told', same⟩ := cancelled_step orderly stepped held.1
      exact ⟨told', same.trans held.2⟩)
    (fun _ _ => trivial) orderly ran ⟨told, rfl⟩
  exact kept.2

/-- A step that ends a poll applies its outcome, whatever it is. -/
theorem settled_of_pollEnd {finish : PollEnd} (stepped : client.step action = some next)
    (ended : client.pollEnd? action = some finish) :
    (next.store, next.tracker) = client.settled client.now finish := by
  cases transition_of_step stepped with
  | answers result draw started cutOff fetching sequence counts =>
    simp only [pollEnd?, fetching, endOfAnswer, counts, Option.some.injEq] at ended
    subst ended
    cases client.outcome result with
    | failure failure => rfl
    | success snapshot =>
      by_cases taken : client.store.accepts snapshot = true
      · simp [endOf, storeAfter, trackerAfter, settled, taken, wall]
      · have refused : client.store.accepts snapshot = false := by simpa using taken
        simp [endOf, storeAfter, trackerAfter, settled, refused, Store.publish_of_not_accepts]
  | cutsOff draw started cutOff fetching late =>
    simp only [pollEnd?, fetching, Option.some.injEq] at ended
    subst ended
    rfl
  | overflows result draw started cutOff fetching last =>
    simp only [pollEnd?, fetching, endOfAnswer, last, Option.some.injEq] at ended
    subst ended
    rfl
  | panics started cutOff fetching =>
    simp only [pollEnd?, fetching, Option.some.injEq] at ended
    subst ended
    rfl
  | calls | refuses | starts | startFails | startsAgain | cancels | stopsIdle | stopsAgain | drains
  | leavesDrain | leavesQueue | exits | begins | publishes | awaits | notices | givesUp | elapses | dropsRunning
  | dropsOther => simp [pollEnd?] at ended

/-- Only a stop tells a task to stop that waits for a fetch. -/
theorem stopped_of_told {started cutOff : Instant} (orderly : Orderly client)
    (told : client.cancelled = true) (fetching : client.task = .fetching started cutOff) :
    client.guarded = .stopped := by
  cases guarded : client.guarded with
  | stopped => rfl
  | idle => simp [(orderly.idle guarded).1] at fetching
  | running =>
    have past := (orderly.running guarded).2.2 told
    simp [fetching, Task.isOver] at past

/-- While a task that has been told to stop waits for a fetch nothing is recorded, and the end of the
fetch freezes the client. -/
theorem fetching_step {started cutOff : Instant} (orderly : Orderly client)
    (unpublished : action.Unpublished) (stepped : client.step action = some next)
    (told : client.cancelled = true) (fetching : client.task = .fetching started cutOff) :
    (client.pollEnd? action = none ∧ next.task = client.task ∧ SameRecord client next) ∨
      ∃ finish, client.pollEnd? action = some finish ∧ Frozen next := by
  have stopped := stopped_of_told orderly told fetching
  have stays := stopped_step stepped stopped
  cases transition_of_step stepped with
  | starts _ _ _ _ idle => simp [stopped] at idle
  | exits woken => simp [fetching] at woken
  | begins due => simp [fetching] at due
  | drains _ how _ past => simp [fetching] at past
  | publishes => exact unpublished.elim
  | dropsRunning _ running => simp [stopped] at running
  | answers result draw started cutOff waited =>
    exact .inr ⟨client.endOfAnswer result, by simp [pollEnd?, waited], stays,
      (client.isOver_taskAfter started draw).2 told⟩
  | overflows result draw started cutOff waited =>
    exact .inr ⟨client.endOfAnswer result, by simp [pollEnd?, waited], stays, rfl⟩
  | cutsOff draw started cutOff waited late =>
    exact .inr ⟨.failed .timeout, by simp [pollEnd?, waited], stays,
      (client.isOver_taskAfter started draw).2 told⟩
  | panics started cutOff waited => exact .inr ⟨.panicked, by simp [pollEnd?, waited], stays, rfl⟩
  | calls | refuses | startFails | startsAgain | cancels | stopsIdle | stopsAgain | leavesDrain
  | leavesQueue | awaits | notices | givesUp | elapses | dropsOther =>
    exact .inl ⟨by simp [pollEnd?], rfl, rfl, rfl, rfl⟩

/-- The fetch that is in flight when its task is told to stop ends once, by its deadline, and its outcome
is the last that is applied. -/
theorem fetching_run {started cutOff : Instant} (orderly : Orderly client) (punctual : Punctual client)
    (unpublished : ∀ action ∈ actions, action.Unpublished) (ran : client.run actions = some next)
    (told : client.cancelled = true) (fetching : client.task = .fetching started cutOff) :
    (client.pollEnds actions = [] ∧ next.task = client.task ∧ SameRecord client next) ∨
      ∃ finish instant, client.pollEnds actions = [finish] ∧ instant ≤ cutOff ∧ Frozen next ∧
        (next.store, next.tracker) = client.settled instant finish := by
  induction actions generalizing client with
  | nil =>
    obtain rfl := Option.some.inj ran
    exact .inl ⟨rfl, rfl, rfl, rfl, rfl⟩
  | cons action actions ih =>
    obtain ⟨middle, stepped, ran⟩ := run_cons ran
    obtain ⟨here, later⟩ := List.forall_mem_cons.mp unpublished
    rw [pollEnds_cons stepped]
    rcases fetching_step orderly here stepped told fetching with
      ⟨quiet, same, record⟩ | ⟨finish, ended, frozen⟩
    · rw [quiet, Option.toList_none, List.nil_append]
      have waits := ih (orderly_step stepped orderly) (punctual_step stepped punctual) later ran
        (cancelled_step orderly stepped told).1 (same.trans fetching)
      rcases waits with ⟨none, same', record'⟩ | ⟨finish, instant, one, inTime, frozen, effect⟩
      · exact .inl ⟨none, same'.trans same, record.trans record'⟩
      · refine .inr ⟨finish, instant, one, inTime, frozen, effect.trans ?_⟩
        obtain ⟨store, tracker, _⟩ := record
        cases finish <;> simp [settled, store, tracker]
    · obtain ⟨frozen', ⟨store, tracker, _⟩, none⟩ := frozen_run later ran frozen
      refine .inr ⟨finish, client.now, ?_, (punctual started cutOff fetching).2.2, frozen', ?_⟩
      · rw [ended, none]
        rfl
      · rw [store, tracker]
        exact settled_of_pollEnd stepped ended

/-- Once the client has been stopped and the lock is free the task is over. -/
def Drained (client : Client) : Prop :=
  client.guarded = .stopped → client.draining = none → client.task.isOver = true

/-- As long as callers run to completion the lock is kept until the task is over. -/
theorem drained_step (orderly : Orderly client) (undisturbed : action.Undisturbed)
    (stepped : client.step action = some next) (drained : Drained client) : Drained next := by
  have unchanged := drained
  intro stopped free
  cases transition_of_step stepped with
  | starts => simp at stopped
  | cancels => simp at free
  | stopsIdle _ _ _ _ idle => simp [(orderly.idle idle).1, Task.isOver]
  | drains caller how holds past => simp [past, Task.isOver]
  | exits | overflows | panics => rfl
  | begins due untold =>
    exact absurd ((orderly.stopped stopped).resolve_right (by simp [untold])) (rested_of_due due).1
  | answers _ _ _ _ fetching | cutsOff _ _ _ fetching _ =>
    have past := unchanged stopped free
    simp [fetching, Task.isOver] at past
  | publishes | leavesDrain | leavesQueue => exact undisturbed.elim
  | dropsRunning _ running => exact absurd (stopped.symm.trans running) (by decide)
  | calls | refuses | startFails | startsAgain | stopsAgain | awaits | notices | givesUp | elapses
  | dropsOther => exact unchanged stopped free

/-- A stop that returns leaves the client stopped and the lock free. -/
theorem stopped_of_stopReturn {caller : Nat} (orderly : Orderly client)
    (stepped : client.step action = some next) (returned : client.stopReturn? action = some caller) :
    action.Undisturbed ∧ next.answered = client.answered.push (caller, .done) ∧
      next.guarded = .stopped ∧ next.draining = none := by
  cases transition_of_step stepped with
  | starts _ _ free head | startFails _ _ free head | startsAgain _ _ free head =>
    simp [stopReturn?, free, head] at returned
  | cancels _ _ free head running => simp [stopReturn?, free, head, running] at returned
  | stopsIdle _ _ free head idle =>
    simp only [stopReturn?, free, head, idle, reduceCtorEq, if_false, Option.some.injEq] at returned
    subst returned
    exact ⟨trivial, rfl, rfl, free⟩
  | stopsAgain _ _ free head stopped =>
    simp only [stopReturn?, free, head, stopped, reduceCtorEq, if_false, Option.some.injEq] at returned
    subst returned
    exact ⟨trivial, rfl, stopped, free⟩
  | drains holder how holds past =>
    simp only [stopReturn?, holds, Option.some.injEq] at returned
    subst returned
    exact ⟨trivial, rfl, (orderly.draining holder holds).1, rfl⟩
  | calls | refuses | leavesDrain | leavesQueue | exits | begins | answers | cutsOff | overflows | panics
  | publishes | awaits | notices | givesUp | elapses | dropsRunning | dropsOther =>
    simp [stopReturn?] at returned

/-- A stop returns to its caller once the task is over, and the client is frozen from then on. -/
theorem frozen_of_stopReturn {caller : Nat} (drained : Drained client)
    (orderly : Orderly client) (stepped : client.step action = some next)
    (returned : client.stopReturn? action = some caller) :
    next.answered = client.answered.push (caller, .done) ∧ Frozen next := by
  obtain ⟨undisturbed, answered, stopped, free⟩ := stopped_of_stopReturn orderly stepped returned
  exact ⟨answered, stopped, drained_step orderly undisturbed stepped drained stopped free⟩

/-- A task that has not run has not fetched. -/
theorem unstarted_step (orderly : Orderly client) (stepped : client.step action = some next)
    (unstarted : client.task = .queued → client.fetches = #[]) :
    next.task = .queued → next.fetches = #[] := by
  intro queued
  cases transition_of_step stepped with
  | starts _ _ _ _ idle => exact (orderly.idle idle).2.2.2
  | exits | overflows | panics => simp at queued
  | begins => simp [beginPoll] at queued
  | answers _ draw started | cutsOff draw started =>
    exact absurd queued (client.taskAfter_ne_queued started draw)
  | dropsRunning => cases task : client.task <;> simp [task, abortTask] at queued
  | _ => exact unstarted queued

/-- What a stop guarantees in a state, for everything that can happen from it on, if so far these callers
have called. -/
structure Drains (calls : List Nat) (client : Client) : Prop where
  /-- No fetch begins once the task has been told to stop. -/
  fetchesNoMore : client.cancelled = true → ∀ later next, client.run later = some next →
    next.fetches = client.fetches
  /-- The fetch in flight when the task is told to stop goes on and ends once, by its deadline, and its
  outcome is applied once. -/
  appliesOnce : ∀ started cutOff, client.cancelled = true → client.task = .fetching started cutOff →
    cutOff = client.deadline started ∧ ∀ later next, (∀ action ∈ later, action.Undisturbed) →
      client.run later = some next →
      (client.pollEnds later = [] ∧ next.task = client.task ∧ SameRecord client next) ∨
        ∃ finish instant, client.pollEnds later = [finish] ∧ instant ≤ cutOff ∧ Frozen next ∧
          (next.store, next.tracker) = client.settled instant finish
  /-- A deadline lies less than one step of the timers after the end of the time for a fetch. -/
  deadlines : ∀ began : Instant, began + client.config.fetchTimeout.nanos < Instant.limit →
    began + client.config.fetchTimeout.nanos ≤ client.deadline began ∧
      client.deadline began < began + client.config.fetchTimeout.nanos + max client.timerStep 1
  /-- A stop returns to its caller only when the task is over. -/
  returnsAfter : ∀ action next caller, client.step action = some next →
    client.stopReturn? action = some caller →
    next.answered = client.answered.push (caller, .done) ∧ Frozen next
  /-- Calls return in the order in which they were made. -/
  returnsInOrder : client.returned ++ client.pending = calls
  /-- While a call is pending time passes only for the fetch that a stop waits for, up to its deadline. -/
  waitsForFetch : ∀ nanos next, client.step (.elapse nanos) = some next → client.pending ≠ [] →
    0 < nanos → client.guarded = .stopped ∧ ∃ started cutOff, client.task = .fetching started cutOff ∧
      client.now + nanos ≤ cutOff
  /-- Once a stop has taken the lock the calls that are pending have returned by the deadline of the fetch
  in flight, at once if there is none. -/
  returnsInTime : client.guarded = .stopped → ∀ later next, client.run later = some next →
    next.now ≤ client.drainLimit ∨ ∃ before after middle, later = before ++ after ∧
      client.run before = some middle ∧ middle.pending = [] ∧ middle.now ≤ client.drainLimit
  /-- All pending calls can return by then, even if the source hangs. -/
  canReturn : ∃ later next, (∀ action ∈ later, action.Internal) ∧ client.run later = some next ∧
    next.pending = [] ∧ next.now ≤ client.drainLimit
  /-- After a stop has returned nothing is recorded any more. -/
  freezes : ∀ action next caller, client.step action = some next →
    client.stopReturn? action = some caller → ∀ later last, (∀ action ∈ later, action.Undisturbed) →
    next.run later = some last → SameRecord next last
  /-- A task that is told to stop before it has run never fetches. -/
  neverFetches : client.task = .queued → client.cancelled = true → ∀ later next,
    client.run later = some next → next.fetches = #[]
  /-- A stop that finds the lock free tells the task at once. -/
  cancelsAtOnce : client.task = .queued → client.draining = none → client.queue = [] →
    ∀ caller later next, client.run (.call caller .stop :: .takeLock :: later) = some next →
    next.fetches = #[]

/-- In every state that can be reached while callers run to completion, however calls and the poll task
take turns, a stop drains the task once and freezes the client for good. -/
theorem stop_drains_once (config : Config) (timerStep : Nat) (actions : List Action) (client : Client)
    (undisturbed : ∀ action ∈ actions, action.Undisturbed)
    (ran : (initial config timerStep).run actions = some client) : Drains (callers actions) client := by
  have orderly := orderly_run ran
  have punctual := punctual_run ran
  obtain ⟨_, drained, unstarted⟩ := run_keeps
    (fun client => Orderly client ∧ Drained client ∧ (client.task = .queued → client.fetches = #[]))
    Action.Undisturbed
    (fun here stepped kept => ⟨orderly_step stepped kept.1, drained_step kept.1 here stepped kept.2.1,
      unstarted_step kept.1 stepped kept.2.2⟩)
    undisturbed ran ⟨orderly_initial config timerStep, by simp [Drained, initial], fun _ => rfl⟩
  have neverFetches : client.task = .queued → client.cancelled = true → ∀ later next,
      client.run later = some next → next.fetches = #[] := by
    intro queued told later next ran'
    rw [cancelled_run orderly ran' told]
    exact unstarted queued
  constructor
  case fetchesNoMore =>
    intro told later next ran'
    exact cancelled_run orderly ran' told
  case appliesOnce =>
    intro started cutOff told fetching
    refine ⟨(punctual started cutOff fetching).1, fun later next undisturbed' ran' => ?_⟩
    exact fetching_run orderly punctual (unpublished_of_undisturbed undisturbed') ran' told fetching
  case deadlines =>
    intro began named
    exact deadline_bounds named
  case returnsAfter =>
    intro action next caller stepped returned
    exact frozen_of_stopReturn drained orderly stepped returned
  case returnsInOrder =>
    exact returned_append_pending_run (orderly_initial config timerStep) (numbered_initial config timerStep)
      undisturbed ran
  case waitsForFetch =>
    intro nanos next stepped waits passes
    exact elapses_for_fetch orderly stepped waits passes
  case returnsInTime =>
    intro stopped later next ran'
    exact returned_in_time orderly punctual stopped ran' (Nat.le_refl _)
  case canReturn =>
    exact calls_return orderly punctual
  case freezes =>
    intro action next caller stepped returned later last undisturbed' ran'
    have frozen := (frozen_of_stopReturn drained orderly stepped returned).2
    exact (frozen_run (unpublished_of_undisturbed undisturbed') ran' frozen).2.1
  case neverFetches =>
    exact neverFetches
  case cancelsAtOnce =>
    intro queued free empty caller later next ran'
    obtain ⟨called, stepped, ran'⟩ := run_cons ran'
    obtain rfl := Option.some.inj stepped
    obtain ⟨taken, stepped', ran'⟩ := run_cons ran'
    -- the lock guards a running client, or one that has been stopped before
    cases transition_of_step stepped' with
    | starts _ _ _ head | startFails _ _ _ head | startsAgain _ _ _ head => simp [empty] at head
    | stopsIdle _ _ _ _ idle => simp [(orderly.idle idle).1] at queued
    | stopsAgain _ _ _ _ stopped =>
      have told := (orderly.stopped stopped).resolve_left (by simp [queued])
      rw [cancelled_run (orderly_step stepped' (orderly_step stepped orderly)) ran' told]
      exact unstarted queued
    | cancels _ _ _ _ running =>
      rw [cancelled_run (orderly_step stepped' (orderly_step stepped orderly)) ran' rfl]
      exact unstarted queued

/-- Two stops and a start are called while the first fetch is in flight. -/
def stopsInFlight : List Action :=
  [.call 0 .start, .takeLock, .resume, .elapse 1000000, .call 1 .stop, .call 2 .stop, .takeLock,
    .call 3 .start]

/-- A fetch is in flight, its task has been told to stop and three calls are pending; all that is
guaranteed. -/
theorem stop_drains_once_stopsInFlight :
    ∃ client, (initial .default 1000000).run stopsInFlight = some client ∧
      (∀ action ∈ stopsInFlight, action.Undisturbed) ∧
      client.task = .fetching 0 10000000000 ∧ client.cancelled = true ∧ client.pending = [1, 2, 3] ∧
      Drains [0, 1, 2, 3] client := by
  have ran : (initial .default 1000000).run stopsInFlight = some _ := rfl
  have undisturbed : ∀ action ∈ stopsInFlight, action.Undisturbed := by
    simp [stopsInFlight, Action.Undisturbed]
  exact ⟨_, ran, undisturbed, rfl, rfl, rfl,
    stop_drains_once .default 1000000 stopsInFlight _ undisturbed ran⟩

/-- A stop waits for a fetch that may take a millisecond and a half, up to its end. -/
def hurriedStop : List Action :=
  [.call 0 .start, .takeLock, .resume, .elapse 1000000, .call 1 .stop, .takeLock, .elapse 1000000,
    .cutOff .half]

/-- A stop is called before the task has run, and the task runs before the stop takes the lock. -/
def overtakenStop : List Action := [.call 0 .start, .takeLock, .call 1 .stop, .resume]

/-- With timers that run out at whole milliseconds, a stop returns half a millisecond after the time for
the fetch in flight is over. And a stop that has been called but has not got the lock does not keep a task
from its first fetch. -/
theorem stop_outlasts_fetchTimeout :
    hurried.validate = .ok () ∧
    (∃ client next, (initial hurried 1000000).run hurriedStop = some client ∧
      (∀ action ∈ hurriedStop, action.Undisturbed) ∧
      client.step .drained = some next ∧ client.stopReturn? .drained = some 1 ∧
      client.fetches.toList.map FetchCall.began = [0] ∧ 0 + hurried.fetchTimeout.nanos < next.now) ∧
    ∃ client, (initial hurried 1000000).run overtakenStop = some client ∧
      (∀ action ∈ overtakenStop, action.Undisturbed) ∧ client.fetches.size = 1 := by
  refine ⟨rfl, ⟨_, _, rfl, ?_, rfl, rfl, rfl, by decide⟩, _, rfl, ?_, rfl⟩
  · simp [hurriedStop, Action.Undisturbed]
  · simp [overtakenStop, Action.Undisturbed]

end LiveFlags.Client
