import LiveFlags.Client.Step

/-!
# Transitions of a client

`Transition` lists what a step can do: one case for each thing that can happen, with the condition under
which it happens and the whole state that follows. `transition_of_step` proves the list complete, so an
invariant is kept by every step as soon as it is kept by every case, and no proof opens the step function
again. A poll that ends is described once for all its outcomes, by what becomes of the store, the
counters, the task and the log (`finishPoll_eq`).
-/
namespace LiveFlags.Client

/-- The store after a poll has come to an outcome. -/
def storeAfter (client : Client) : PollOutcome → Store
  | .success snapshot => client.store.publish snapshot
  | .failure _ => client.store

/-- The counters after a poll has come to an outcome: a snapshot that the store does not take leaves
them as they are. -/
def trackerAfter (client : Client) : PollOutcome → Tracker
  | .success snapshot =>
    if client.store.accepts snapshot then
      client.tracker.recordSuccess snapshot.flagCount client.wall client.now
    else client.tracker
  | .failure failure => client.tracker.recordFailure failure

/-- What the task does after a poll that began at an instant. -/
def taskAfter (client : Client) (started : Instant) (draw : Draw) : Task :=
  match client.nextWake? started draw with
  | none => .ended (.panicked false)
  | some wake => if client.cancelled then .ended .finished else .sleeping (client.roundUp wake)

/-- The events of applying an outcome. -/
def outcomeEvents (client : Client) : PollOutcome → List Event
  | .success snapshot =>
    client.store.publishEvents snapshot ++
      if client.store.accepts snapshot then
        if client.store.current.isEmptySnapshot then [.initialized snapshot.flagCount snapshot.version]
        else [.published snapshot.sequence snapshot.flagCount snapshot.version]
      else [.notPublished snapshot.sequence]
  | .failure failure => [.pollFailed failure (client.tracker.recordFailure failure).consecutiveFailures]

/-- The events of leaving the loop, if the task has just done so. -/
def partingEvents : Task → List Event
  | .ended .finished => [.loopExited]
  | _ => []

/-- Events of two parts are added one part after the other. -/
theorem append_events (log : Array Event) (first later : List Event) :
    log ++ (first ++ later) = log ++ first ++ later := by
  apply Array.toList_inj.mp
  simp only [Array.toList_appendList, List.append_assoc]

/-- The outcome of a poll changes the store, the counters and the log. -/
theorem apply_eq (client : Client) (outcome : PollOutcome) :
    client.apply outcome =
      { client with
        store := client.storeAfter outcome
        tracker := client.trackerAfter outcome
        log := client.log ++ client.outcomeEvents outcome } := by
  cases outcome with
  | failure failure => rfl
  | success snapshot =>
    rw [outcomeEvents, append_events]
    by_cases taken : client.store.accepts snapshot = true
    · by_cases first : client.store.current.isEmptySnapshot = true
      · simp [apply, applySuccess, storeAfter, trackerAfter, logging, wall, taken, first]
      · simp [apply, applySuccess, storeAfter, trackerAfter, logging, wall, taken, first]
    · simp [apply, applySuccess, storeAfter, trackerAfter, logging, taken]

/-- After a poll only the task and the log change. -/
theorem rest_eq (client : Client) (started : Instant) (draw : Draw) :
    client.rest started draw =
      { client with
        task := client.taskAfter started draw
        log := client.log ++ partingEvents (client.taskAfter started draw) } := by
  unfold rest taskAfter
  cases client.nextWake? started draw with
  | none => simp [partingEvents]
  | some wake =>
    by_cases told : client.cancelled = true
    · simp [told, exitLoop, logging, partingEvents]
    · simp [told, partingEvents]

/-- The client after a poll that began at an instant has come to an outcome. -/
abbrev afterPoll (client : Client) (outcome : PollOutcome) (started : Instant) (draw : Draw) : Client :=
  { client with
    store := client.storeAfter outcome
    tracker := client.trackerAfter outcome
    task := client.taskAfter started draw
    log := client.log ++ (client.outcomeEvents outcome ++ partingEvents (client.taskAfter started draw)) }

/-- A poll that ends changes the store, the counters, the task and the log. -/
theorem finishPoll_eq (client : Client) (outcome : PollOutcome) (started : Instant) (draw : Draw) :
    client.finishPoll outcome started draw = client.afterPoll outcome started draw := by
  have same : (client.apply outcome).taskAfter started draw = client.taskAfter started draw := by
    rw [apply_eq]
    rfl
  rw [finishPoll, rest_eq, same, apply_eq, ← append_events]

/-- An answer to the fetch in flight ends its poll, if a sequence is left for the next snapshot. -/
theorem answered?_eq {client : Client} {result : Except FetchError FlagSet} {started cutOff : Instant}
    {sequence : UInt64} (fetching : client.task = .fetching started cutOff)
    (counts : client.sequenceAfter? (client.outcome result) = some sequence) (draw : Draw) :
    client.answered? result draw =
      some { client.afterPoll (client.outcome result) started draw with nextSequence := sequence } := by
  unfold answered?
  split
  · rename_i began _ waits
    obtain ⟨rfl, rfl⟩ := Task.fetching.inj (fetching.symm.trans waits)
    simp only [counts, finishPoll_eq]
    rfl
  · rename_i other
    exact absurd fetching (other started cutOff)

/-- An answer that brings a snapshot for the last sequence ends the task. -/
theorem answered?_eq_of_last {client : Client} {result : Except FetchError FlagSet} {started cutOff : Instant}
    (fetching : client.task = .fetching started cutOff)
    (last : client.sequenceAfter? (client.outcome result) = none) (draw : Draw) :
    client.answered? result draw = some { client with task := .ended (.panicked true) } := by
  unfold answered?
  split
  · simp only [last]
  · rename_i other
    exact absurd fetching (other started cutOff)

/-- What can happen to a client, and what follows. -/
inductive Transition (client : Client) : Action → Client → Prop where
  /-- A caller joins the queue for the lock. -/
  | calls (caller : Nat) (request : Request) :
    Transition client (.call caller request)
      { client with queue := client.queue ++ [(caller, request)] }
  /-- A start is refused for want of anything to run a task on. -/
  | refuses (caller : Nat) :
    Transition client (.startOutside caller)
      { client with answered := client.answered.push (caller, .noRuntime) }
  /-- The first start spawns the task. -/
  | starts (caller : Nat) (rest : List (Nat × Request)) (free : client.draining = none)
      (head : client.queue = (caller, .start) :: rest) (idle : client.guarded = .idle) (sequence : UInt64)
      (counts : successor? client.store.current.sequence = some sequence) :
    Transition client .takeLock
      { client with
        queue := rest
        nextSequence := sequence
        task := .queued
        cancelled := false
        guarded := .running
        status := .running
        log := client.log ++ [client.startedEvent]
        answered := client.answered.push (caller, .done) }
  /-- A start panics because the visible sequence is the last one. -/
  | startFails (caller : Nat) (rest : List (Nat × Request)) (free : client.draining = none)
      (head : client.queue = (caller, .start) :: rest) (idle : client.guarded = .idle)
      (last : successor? client.store.current.sequence = none) :
    Transition client .takeLock
      { client with
        queue := rest
        panickedCalls := client.panickedCalls.push caller }
  /-- A later start changes nothing. -/
  | startsAgain (caller : Nat) (rest : List (Nat × Request)) (free : client.draining = none)
      (head : client.queue = (caller, .start) :: rest) (taken : client.guarded ≠ .idle) :
    Transition client .takeLock
      { client with
        queue := rest
        log := (enterStart { client with queue := rest } caller).log
        answered := client.answered.push (caller, .done) }
  /-- The first stop of a started client tells the task to stop and keeps the lock. -/
  | cancels (caller : Nat) (rest : List (Nat × Request)) (free : client.draining = none)
      (head : client.queue = (caller, .stop) :: rest) (running : client.guarded = .running) :
    Transition client .takeLock
      { client with
        queue := rest
        guarded := .stopped
        cancelled := true
        draining := some caller }
  /-- A stop comes before any start. -/
  | stopsIdle (caller : Nat) (rest : List (Nat × Request)) (free : client.draining = none)
      (head : client.queue = (caller, .stop) :: rest) (idle : client.guarded = .idle) :
    Transition client .takeLock
      { client with
        queue := rest
        guarded := .stopped
        status := .stopped
        log := client.log ++ [Event.stoppedBeforeStart]
        answered := client.answered.push (caller, .done) }
  /-- A later stop finds the client stopped. -/
  | stopsAgain (caller : Nat) (rest : List (Nat × Request)) (free : client.draining = none)
      (head : client.queue = (caller, .stop) :: rest) (stopped : client.guarded = .stopped) :
    Transition client .takeLock
      { client with
        queue := rest
        status := .stopped
        answered := client.answered.push (caller, .done) }
  /-- The stop that holds the lock returns. -/
  | drains (caller : Nat) (how : Ending) (holds : client.draining = some caller)
      (past : client.task = .ended how) :
    Transition client .drained
      { client with
        draining := none
        status := .stopped
        log := client.log ++ drainedEvents how
        answered := client.answered.push (caller, .done) }
  /-- The caller that holds the lock goes away. -/
  | leavesDrain (caller : Nat) (holds : client.draining = some caller) :
    Transition client (.abandon caller) { client with draining := none }
  /-- A caller that waits for the lock goes away. -/
  | leavesQueue (caller : Nat) (waits : client.draining ≠ some caller) :
    Transition client (.abandon caller)
      { client with queue := client.queue.filter (·.1 ≠ caller) }
  /-- The task has been told to stop and leaves its loop. -/
  | exits (woken : client.task = .queued ∨ ∃ wake, client.task = .sleeping wake)
      (told : client.cancelled = true) :
    Transition client .resume
      { client with task := .ended .finished, log := client.log ++ [Event.loopExited] }
  /-- The task begins a poll. -/
  | begins (due : client.task = .queued ∨ ∃ wake ≤ client.now, client.task = .sleeping wake)
      (untold : client.cancelled = false) :
    Transition client .resume client.beginPoll
  /-- The source answers. -/
  | answers (result : Except FetchError FlagSet) (draw : Draw) (started cutOff : Instant)
      (fetching : client.task = .fetching started cutOff) (sequence : UInt64)
      (counts : client.sequenceAfter? (client.outcome result) = some sequence) :
    Transition client (.answer result draw)
      { client.afterPoll (client.outcome result) started draw with nextSequence := sequence }
  /-- The source brings a snapshot for the last sequence, and the task panics. -/
  | overflows (result : Except FetchError FlagSet) (draw : Draw) (started cutOff : Instant)
      (fetching : client.task = .fetching started cutOff)
      (last : client.sequenceAfter? (client.outcome result) = none) :
    Transition client (.answer result draw) { client with task := .ended (.panicked true) }
  /-- The fetch is cut off. -/
  | cutsOff (draw : Draw) (started cutOff : Instant) (fetching : client.task = .fetching started cutOff)
      (late : cutOff ≤ client.now) :
    Transition client (.cutOff draw) (client.afterPoll (.failure .timeout) started draw)
  /-- The source panics. -/
  | panics (started cutOff : Instant) (fetching : client.task = .fetching started cutOff) :
    Transition client .panic { client with task := .ended (.panicked true) }
  /-- Somebody else offers a snapshot. -/
  | publishes (snapshot : Snapshot) :
    Transition client (.publish snapshot)
      { client with
        store := client.store.publish snapshot
        log := client.log ++ client.store.publishEvents snapshot }
  /-- A caller begins to wait for the first snapshot. -/
  | awaits (caller : Nat) (timeout : Duration) :
    Transition client (.await caller timeout)
      { client with waiters := client.waiters ++ [⟨caller, client.timer timeout⟩] }
  /-- The first waiting caller sees that there is a snapshot. -/
  | notices (waiter : Waiter) (rest : List Waiter) (first : client.waiters = waiter :: rest)
      (ready : client.isReady = true) :
    Transition client .notice
      { client with
        waiters := rest
        readiness := client.readiness.push (waiter.caller, true) }
  /-- A waiting caller gives up. -/
  | givesUp (waiter : Waiter) (waits : waiter ∈ client.waiters) (late : waiter.givesUp ≤ client.now)
      (unready : client.isReady = false) :
    Transition client (.giveUp waiter.caller)
      { client with
        waiters := client.waiters.erase waiter
        readiness := client.readiness.push (waiter.caller, false) }
  /-- Time passes. -/
  | elapses (nanos : Nat) (inTime : ∀ due ∈ client.dues, client.now + nanos ≤ due) :
    Transition client (.elapse nanos) { client with now := client.now + nanos }
  /-- The owner drops a client whose task has not been told to stop. -/
  | dropsRunning (still : client.draining = none ∧ client.queue = []) (running : client.guarded = .running) :
    Transition client .drop { client with cancelled := true, task := abortTask client.task }
  /-- The owner drops a client that has not been started or has been stopped. -/
  | dropsOther (still : client.draining = none ∧ client.queue = []) (other : client.guarded ≠ .running) :
    Transition client .drop client

variable {client next : Client}

/-- Taking the lock is the work of the first call in the queue. -/
theorem transition_of_takeLock (h : client.takeLock? = some next) : Transition client .takeLock next := by
  unfold takeLock? at h
  split at h
  · rename_i caller rest free head
    obtain rfl := Option.some.inj h
    cases guarded : client.guarded with
    | idle =>
      cases counts : successor? client.store.current.sequence with
      | none =>
        have entered := Transition.startFails caller rest free head guarded counts
        simpa [enterStart, guarded, counts] using entered
      | some sequence =>
        have entered := Transition.starts caller rest free head guarded sequence counts
        simpa [enterStart, answer, logging, startedEvent, guarded, counts] using entered
    | running =>
      have entered := Transition.startsAgain caller rest free head (by simp [guarded])
      simpa [enterStart, answer, logging, guarded] using entered
    | stopped =>
      have entered := Transition.startsAgain caller rest free head (by simp [guarded])
      simpa [enterStart, answer, logging, guarded] using entered
  · rename_i caller rest free head
    obtain rfl := Option.some.inj h
    cases guarded : client.guarded with
    | idle =>
      have entered := Transition.stopsIdle caller rest free head guarded
      simpa [enterStop, answer, logging, guarded] using entered
    | running =>
      have entered := Transition.cancels caller rest free head guarded
      simpa [enterStop, guarded] using entered
    | stopped =>
      have entered := Transition.stopsAgain caller rest free head guarded
      simpa [enterStop, answer, guarded] using entered
  · contradiction

/-- A stop that holds the lock returns when the task has ended. -/
theorem transition_of_drained (h : client.drained? = some next) : Transition client .drained next := by
  unfold drained? at h
  split at h
  · rename_i caller how holds past
    obtain rfl := Option.some.inj h
    exact .drains caller how holds past
  · contradiction

/-- A caller that goes away holds the lock or waits for it. -/
theorem transition_of_abandon {caller : Nat} (h : client.abandon? caller = some next) :
    Transition client (.abandon caller) next := by
  unfold abandon? at h
  split at h
  · rename_i holds
    obtain rfl := Option.some.inj h
    exact .leavesDrain caller holds
  · rename_i waits
    split at h
    · obtain rfl := Option.some.inj h
      exact .leavesQueue caller waits
    · contradiction

/-- A task that runs leaves its loop or begins a poll. -/
theorem transition_of_resume (h : client.resume? = some next) : Transition client .resume next := by
  unfold resume? at h
  split at h
  · rename_i queued
    by_cases told : client.cancelled = true
    · rw [if_pos told] at h
      obtain rfl := Option.some.inj h
      exact .exits (.inl queued) told
    · rw [if_neg told] at h
      obtain rfl := Option.some.inj h
      exact .begins (.inl queued) (by simpa using told)
  · rename_i wake sleeping
    split at h
    · rename_i told
      obtain rfl := Option.some.inj h
      exact .exits (.inr ⟨wake, sleeping⟩) told
    · rename_i untold
      split at h
      · rename_i due
        obtain rfl := Option.some.inj h
        exact .begins (.inr ⟨wake, due, sleeping⟩) (by simpa using untold)
      · contradiction
  · contradiction

/-- An answer ends the poll in flight. -/
theorem transition_of_answered {result : Except FetchError FlagSet} {draw : Draw}
    (h : client.answered? result draw = some next) : Transition client (.answer result draw) next := by
  cases task : client.task with
  | fetching started cutOff =>
    cases counts : client.sequenceAfter? (client.outcome result) with
    | none =>
      rw [answered?_eq_of_last task counts] at h
      obtain rfl := Option.some.inj h
      exact .overflows result draw started cutOff task counts
    | some sequence =>
      rw [answered?_eq task counts] at h
      obtain rfl := Option.some.inj h
      exact .answers result draw started cutOff task sequence counts
  | absent | queued | sleeping | ended => simp [answered?, task] at h

/-- The end of its time ends the poll in flight. -/
theorem transition_of_cutOff {draw : Draw} (h : client.cutOff? draw = some next) :
    Transition client (.cutOff draw) next := by
  unfold cutOff? at h
  split at h
  · rename_i started cutOff fetching
    split at h
    · rename_i late
      obtain rfl := Option.some.inj h
      rw [finishPoll_eq]
      exact .cutsOff draw started cutOff fetching late
    · contradiction
  · contradiction

/-- A panic of the source ends the task. -/
theorem transition_of_panicked (h : client.panicked? = some next) : Transition client .panic next := by
  unfold panicked? at h
  split at h
  · rename_i started cutOff fetching
    obtain rfl := Option.some.inj h
    exact .panics started cutOff fetching
  · contradiction

/-- The first waiting caller is told once there is a snapshot. -/
theorem transition_of_notice (h : client.notice? = some next) : Transition client .notice next := by
  unfold notice? at h
  split at h
  · rename_i waiter rest first
    split at h
    · rename_i ready
      obtain rfl := Option.some.inj h
      exact .notices waiter rest first ready
    · contradiction
  · contradiction

/-- A caller gives up when its time is over and there is no snapshot. -/
theorem transition_of_giveUp {caller : Nat} (h : client.giveUp? caller = some next) :
    Transition client (.giveUp caller) next := by
  unfold giveUp? at h
  split at h
  · rename_i waiter found
    split at h
    · rename_i unready
      obtain rfl := Option.some.inj h
      have member := List.mem_of_find?_eq_some found
      obtain ⟨rfl, late⟩ : waiter.caller = caller ∧ waiter.givesUp ≤ client.now := by
        simpa using List.find?_some found
      exact .givesUp waiter member late unready
    · contradiction
  · contradiction

/-- Time passes up to the next instant at which something is due. -/
theorem transition_of_elapse {nanos : Nat} (h : client.elapse? nanos = some next) :
    Transition client (.elapse nanos) next := by
  unfold elapse? at h
  split at h
  · rename_i inTime
    obtain rfl := Option.some.inj h
    exact .elapses nanos (by simpa using inTime)
  · contradiction

/-- A client is dropped while no call is under way. -/
theorem transition_of_drop (h : client.drop? = some next) : Transition client .drop next := by
  unfold drop? at h
  split at h
  · contradiction
  · rename_i still
    simp only [not_or, Option.not_isSome_iff_eq_none, ne_eq, Decidable.not_not] at still
    split at h
    · rename_i running
      obtain rfl := Option.some.inj h
      exact .dropsRunning ⟨still.1, still.2.1⟩ running
    · rename_i other
      obtain rfl := Option.some.inj h
      exact .dropsOther ⟨still.1, still.2.1⟩ other

/-- Every step is one of the transitions. -/
theorem transition_of_step {action : Action} (h : client.step action = some next) :
    Transition client action next := by
  cases action with
  | call caller request =>
    obtain rfl := Option.some.inj h
    exact .calls caller request
  | startOutside caller =>
    obtain rfl := Option.some.inj h
    exact .refuses caller
  | takeLock => exact transition_of_takeLock h
  | drained => exact transition_of_drained h
  | abandon caller => exact transition_of_abandon h
  | resume => exact transition_of_resume h
  | answer result draw => exact transition_of_answered h
  | cutOff draw => exact transition_of_cutOff h
  | panic => exact transition_of_panicked h
  | publish snapshot =>
    obtain rfl := Option.some.inj h
    exact .publishes snapshot
  | await caller timeout =>
    obtain rfl := Option.some.inj h
    exact .awaits caller timeout
  | notice => exact transition_of_notice h
  | giveUp caller => exact transition_of_giveUp h
  | elapse nanos => exact transition_of_elapse h
  | drop => exact transition_of_drop h

end LiveFlags.Client
