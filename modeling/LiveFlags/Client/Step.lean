import LiveFlags.Client.Basic

/-!
# The steps of a client

Everything that can happen to a client is an `Action`; `Client.step` says when it can happen and what
follows. The order of actions is free but for two rules. Calls get the lock in the order in which they
ask for it, one at a time. And time passes only as long as nothing else is due: no timer is overrun,
and whatever can go on at an instant goes on before the next one (`Client.dues`).

One poll goes like this. The task counts the attempt, tells the source the version of the visible
snapshot and waits. A set that arrives in time and is well formed becomes a snapshot under the next
sequence, which the store takes or discards; anything else is recorded as a failure; a panic of the
source ends the task. Then the task sleeps until the interval has passed since the poll began.

Sequences are counted on with checked additions (`successor?`). A start that finds the last sequence in
the store panics and leaves everything as it was, and a poll task that would have to count on from the
last sequence panics before anything comes of the poll.
-/
namespace LiveFlags

/-- Something that happens to a client. -/
inductive Action where
  /-- A caller asks for the lock. -/
  | call (caller : Nat) (request : Request)
  /-- A caller asks to start with nothing to run a task on. -/
  | startOutside (caller : Nat)
  /-- The first call in the queue takes the lock. -/
  | takeLock
  /-- The `stop` that holds the lock finds the task ended. -/
  | drained
  /-- A caller goes away before its call has returned. -/
  | abandon (caller : Nat)
  /-- The poll task runs: for the first time, from its sleep, or because it has been cancelled. -/
  | resume
  /-- The source answers; the draw is for the wait after the poll. -/
  | answer (result : Except FetchError FlagSet) (draw : Draw)
  /-- The fetch is cut off; the draw is for the wait after the poll. -/
  | cutOff (draw : Draw)
  /-- The source panics. -/
  | panic
  /-- Somebody else offers a snapshot to the store. -/
  | publish (snapshot : Snapshot)
  /-- A caller begins to wait for the first snapshot. -/
  | await (caller : Nat) (timeout : Duration)
  /-- The first waiting caller sees that there is a snapshot. -/
  | notice
  /-- A waiting caller gives up. -/
  | giveUp (caller : Nat)
  /-- Time passes. -/
  | elapse (nanos : Nat)
  /-- The owner drops the client. -/
  | drop

namespace Client

/-- A call returns. -/
def answer (client : Client) (caller : Nat) (reply : Reply) : Client :=
  { client with answered := client.answered.push (caller, reply) }

/-- The event of a start. -/
def startedEvent (client : Client) : Event :=
  .started client.config.pollInterval.millisWord client.config.fetchTimeout.millisWord
    client.config.jitterFraction

/-- The sequence after a given one; none after the last one that 64 bits hold. -/
def successor? (sequence : UInt64) : Option UInt64 :=
  if sequence = 18446744073709551615 then none else some (sequence + 1)

/-- A `start` takes the lock, does its work and gives the lock back. It panics if there is no sequence
after the visible one. -/
def enterStart (client : Client) (caller : Nat) : Client :=
  match client.guarded with
  | .running => (client.logging [.alreadyRunning]).answer caller .done
  | .stopped => (client.logging [.cannotRestart]).answer caller .done
  | .idle =>
    match successor? client.store.current.sequence with
    | none => { client with panickedCalls := client.panickedCalls.push caller }
    | some sequence =>
      ({ client with
        nextSequence := sequence
        task := .queued
        cancelled := false
        guarded := .running
        status := .running }.logging [client.startedEvent]).answer caller .done

/-- A `stop` takes the lock. It gives it back at once unless there is a task to wait for. -/
def enterStop (client : Client) (caller : Nat) : Client :=
  match client.guarded with
  | .running => { client with guarded := .stopped, cancelled := true, draining := some caller }
  | .idle =>
    ({ client with guarded := .stopped, status := .stopped }.logging [.stoppedBeforeStart]).answer
      caller .done
  | .stopped => { client with status := .stopped }.answer caller .done

/-- The first call in the queue takes the lock if it is free. -/
def takeLock? (client : Client) : Option Client :=
  match client.draining, client.queue with
  | none, (caller, .start) :: rest => some ({ client with queue := rest }.enterStart caller)
  | none, (caller, .stop) :: rest => some ({ client with queue := rest }.enterStop caller)
  | _, _ => none

/-- The events of a `stop` whose task has ended. -/
def drainedEvents : Ending → List Event
  | .panicked _ => [.taskPanicked, .stopped]
  | _ => [.stopped]

/-- The `stop` that holds the lock returns once the task has ended. -/
def drained? (client : Client) : Option Client :=
  match client.draining, client.task with
  | some caller, .ended how =>
    some (({ client with draining := none, status := .stopped }.logging (drainedEvents how)).answer
      caller .done)
  | _, _ => none

/-- A caller goes away; a `stop` that holds the lock gives it back and leaves the task to itself. -/
def abandon? (client : Client) (caller : Nat) : Option Client :=
  if client.draining = some caller then some { client with draining := none }
  else if client.queue.any (·.1 = caller) then
    some { client with queue := client.queue.filter (·.1 ≠ caller) }
  else none

/-- The task leaves its loop. -/
def exitLoop (client : Client) : Client :=
  { client with task := .ended .finished }.logging [.loopExited]

/-- The task begins a poll: it counts the attempt and asks the source. -/
def beginPoll (client : Client) : Client :=
  let tracker := client.tracker.recordAttempt client.wall
  let context : FetchContext :=
    ⟨client.store.current.version, tracker.pollCount, client.config.fetchTimeout⟩
  { client with
    tracker := tracker
    fetches := client.fetches.push ⟨client.now, context⟩
    task := .fetching client.now (client.timer client.config.fetchTimeout) }

/-- The task runs, if it can. -/
def resume? (client : Client) : Option Client :=
  match client.task with
  | .queued => some (if client.cancelled then client.exitLoop else client.beginPoll)
  | .sleeping wake =>
    if client.cancelled then some client.exitLoop
    else if wake ≤ client.now then some client.beginPoll
    else none
  | _ => none

/-- What a poll comes to when the source answers; a well-formed set takes the next sequence. -/
def outcome (client : Client) (result : Except FetchError FlagSet) : PollOutcome :=
  match result with
  | .error error => .failure (.ofFetchError error)
  | .ok set =>
    match set.validate with
    | .error error => .failure (.invalidPayload error.message)
    | .ok () => .success (.ofSet set client.nextSequence client.wall)

/-- The sequence for the next snapshot after a poll with an outcome: a snapshot uses its sequence up,
whatever the store makes of it. There is none after the last one. -/
def sequenceAfter? (client : Client) : PollOutcome → Option UInt64
  | .success _ => successor? client.nextSequence
  | .failure _ => some client.nextSequence

/-- A snapshot of the task is offered to the store. -/
def applySuccess (client : Client) (snapshot : Snapshot) : Client :=
  let offered :=
    { client with store := client.store.publish snapshot }.logging (client.store.publishEvents snapshot)
  if client.store.accepts snapshot then
    let recorded :=
      { offered with
        tracker := offered.tracker.recordSuccess snapshot.flagCount offered.wall offered.now }
    if client.store.current.isEmptySnapshot then
      recorded.logging [.initialized snapshot.flagCount snapshot.version]
    else recorded.logging [.published snapshot.sequence snapshot.flagCount snapshot.version]
  else offered.logging [.notPublished snapshot.sequence]

/-- A failure is recorded; what readers see stays. -/
def applyFailure (client : Client) (failure : PollFailure) : Client :=
  let tracker := client.tracker.recordFailure failure
  { client with tracker := tracker }.logging [.pollFailed failure tracker.consecutiveFailures]

/-- The outcome of a poll is applied. -/
def apply (client : Client) : PollOutcome → Client
  | .success snapshot => client.applySuccess snapshot
  | .failure failure => client.applyFailure failure

/-- The instant at which the wait after a poll ends; none if it cannot be named. -/
def nextWake? (client : Client) (started : Instant) (draw : Draw) : Option Instant :=
  (jittered client.config.pollInterval client.config.jitterFraction draw).bind started.after?

/-- After a poll the task sleeps, or leaves its loop if it has been cancelled. It panics if the end
of its sleep cannot be named. -/
def rest (client : Client) (started : Instant) (draw : Draw) : Client :=
  match client.nextWake? started draw with
  | none => { client with task := .ended (.panicked false) }
  | some wake =>
    if client.cancelled then client.exitLoop
    else { client with task := .sleeping (client.roundUp wake) }

/-- A poll ends with an outcome. -/
def finishPoll (client : Client) (outcome : PollOutcome) (started : Instant) (draw : Draw) : Client :=
  (client.apply outcome).rest started draw

/-- The source answers the fetch in flight. The task panics, and nothing comes of the poll, if a
snapshot takes the last sequence. -/
def answered? (client : Client) (result : Except FetchError FlagSet) (draw : Draw) : Option Client :=
  match client.task with
  | .fetching started _ =>
    let outcome := client.outcome result
    match client.sequenceAfter? outcome with
    | none => some { client with task := .ended (.panicked true) }
    | some sequence => some ({ client with nextSequence := sequence }.finishPoll outcome started draw)
  | _ => none

/-- The fetch in flight is cut off when its time is over. -/
def cutOff? (client : Client) (draw : Draw) : Option Client :=
  match client.task with
  | .fetching started cutOff =>
    if cutOff ≤ client.now then some (client.finishPoll (.failure .timeout) started draw) else none
  | _ => none

/-- The source panics, and the task with it. -/
def panicked? (client : Client) : Option Client :=
  match client.task with
  | .fetching _ _ => some { client with task := .ended (.panicked true) }
  | _ => none

/-- Somebody else offers a snapshot to the store. -/
def publish (client : Client) (snapshot : Snapshot) : Client :=
  { client with store := client.store.publish snapshot }.logging
    (client.store.publishEvents snapshot)

/-- There is a snapshot to see. -/
def isReady (client : Client) : Bool := client.store.read ≠ 0

/-- The first waiting caller sees that there is a snapshot. -/
def notice? (client : Client) : Option Client :=
  match client.waiters with
  | waiter :: rest =>
    if client.isReady then
      some { client with waiters := rest, readiness := client.readiness.push (waiter.caller, true) }
    else none
  | [] => none

/-- A waiting caller gives up when its time is over. -/
def giveUp? (client : Client) (caller : Nat) : Option Client :=
  match client.waiters.find? fun waiter => waiter.caller = caller ∧ waiter.givesUp ≤ client.now with
  | some waiter =>
    if client.isReady = false then
      some { client with
        waiters := client.waiters.erase waiter
        readiness := client.readiness.push (caller, false) }
    else none
  | none => none

/-- The instant by which the task goes on by itself. -/
def taskDue? (client : Client) : Option Instant :=
  match client.task with
  | .queued => some client.now
  | .fetching _ cutOff => some cutOff
  | .sleeping wake => some (if client.cancelled then client.now else wake)
  | .absent | .ended _ => none

/-- Whether a call can go on with the lock. -/
def lockDue (client : Client) : Bool :=
  match client.draining, client.queue, client.task with
  | none, _ :: _, _ => true
  | some _, _, .ended _ => true
  | _, _, _ => false

/-- The instants that time may not pass before something else has happened. -/
def dues (client : Client) : List Instant :=
  client.taskDue?.toList ++ (if client.lockDue then [client.now] else [])
    ++ client.waiters.map fun waiter => if client.isReady then client.now else waiter.givesUp

/-- Time passes, up to the next instant at which something is due. -/
def elapse? (client : Client) (nanos : Nat) : Option Client :=
  if client.dues.all fun due => client.now + nanos ≤ due then
    some { client with now := client.now + nanos }
  else none

/-- The ending of a task that is aborted. -/
def abortTask : Task → Task
  | .absent => .absent
  | .ended how => .ended how
  | .fetching _ _ => .ended (.aborted true)
  | .queued | .sleeping _ => .ended (.aborted false)

/-- The owner drops the client once no call is under way. The task is aborted if the lock guards a
running one. -/
def drop? (client : Client) : Option Client :=
  if client.draining.isSome ∨ client.queue ≠ [] ∨ client.waiters ≠ [] then none
  else if client.guarded = .running then
    some { client with cancelled := true, task := abortTask client.task }
  else some client

/-- What follows an action, if it can happen. -/
def step (client : Client) : Action → Option Client
  | .call caller request => some { client with queue := client.queue ++ [(caller, request)] }
  | .startOutside caller => some (client.answer caller .noRuntime)
  | .takeLock => client.takeLock?
  | .drained => client.drained?
  | .abandon caller => client.abandon? caller
  | .resume => client.resume?
  | .answer result draw => client.answered? result draw
  | .cutOff draw => client.cutOff? draw
  | .panic => client.panicked?
  | .publish snapshot => some (client.publish snapshot)
  | .await caller timeout =>
    some { client with waiters := client.waiters ++ [⟨caller, client.timer timeout⟩] }
  | .notice => client.notice?
  | .giveUp caller => client.giveUp? caller
  | .elapse nanos => client.elapse? nanos
  | .drop => client.drop?

/-- The client after a list of actions, if all of them can happen in this order. -/
def run (client : Client) : List Action → Option Client
  | [] => some client
  | action :: actions => (client.step action).bind fun next => next.run actions

end Client

end LiveFlags
