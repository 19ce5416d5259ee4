import LiveFlags.Client.Step

/-!
# Simulated runs

A simulation drives a client on a virtual clock against a source that follows a script. It takes the
actions that are due at an instant before it lets time pass, calls before the poll task, and lets time
pass straight to the next instant at which something is due. It changes its client by steps of the client
only (`Simulation.act`).

The loops are bounded by the number of timer steps in the time that may pass, times the greatest number
of actions at one of them.
-/
namespace LiveFlags

/-- What a source does with one fetch. -/
inductive ScriptEntry where
  /-- It answers after a while. -/
  | answers (delay : Duration) (result : Except FetchError FlagSet)
  /-- It never answers. -/
  | hangs
  /-- It panics. -/
  | panics

/-- A reproducible stream of draws: a linear congruence modulo `2 ^ 64`, of which each draw takes the
upper 52 bits. -/
structure Draws where
  /-- The state of the congruence. -/
  state : UInt64
  deriving DecidableEq, Repr

namespace Draws

/-- The next draw: the bits are those behind the point of a double from one to below two, less one. -/
def next (draws : Draws) : Draw × Draws :=
  let state := draws.state * 6364136223846793005 + 1442695040888963407
  let value := Float.ofBits ((state >>> 12) + 0x3FF0000000000000) - 1.0
  (if inside : 0.0 ≤ value ∧ value < 1.0 then ⟨value, inside.1, inside.2⟩ else .half, ⟨state⟩)

end Draws

/-- A client, the script of its source and the answer that is on its way. -/
structure Simulation where
  /-- The client. -/
  client : Client
  /-- What the source does next; the last entry repeats. -/
  script : List ScriptEntry
  /-- When the fetch in flight is answered, and with what. -/
  pending : Option (Instant × Except FetchError FlagSet)
  /-- The draws for the waits between polls. -/
  draws : Draws

namespace Simulation

/-- A simulation of a client that has not done anything. -/
def ofClient (client : Client) (script : List ScriptEntry) : Simulation :=
  ⟨client, script, none, ⟨0⟩⟩

/-- What a source without a script does. -/
def noScript : ScriptEntry := .answers .zero (.error (.transport "no script"))

/-- The simulation after an action of the client; nothing changes if it cannot happen. -/
def act (simulation : Simulation) (action : Action) : Simulation :=
  match simulation.client.step action with
  | some client => { simulation with client := client }
  | none => simulation

/-- The simulation after an action that ends a poll, with one draw used up. -/
def actWithDraw (simulation : Simulation) (action : Draw → Action) : Simulation :=
  let (draw, draws) := simulation.draws.next
  ({ simulation with draws := draws, pending := none }).act (action draw)

/-- The poll task runs; if it begins a poll, the source turns to the next entry of its script. -/
def resume (simulation : Simulation) : Simulation :=
  let begun := simulation.client.fetches.size
  let simulation := simulation.act .resume
  if simulation.client.fetches.size = begun then simulation
  else
    let (entry, script) := match simulation.script with
      | [] => (noScript, [])
      | [entry] => (entry, [entry])
      | entry :: rest => (entry, rest)
    let simulation := { simulation with script := script, pending := none }
    match entry with
    | .answers delay result =>
      { simulation with pending := some (simulation.client.timer delay, result) }
    | .hangs => simulation
    | .panics => simulation.act .panic

/-- The task goes on at the present instant, if it can: it runs, or its fetch is answered, or its fetch
is cut off. An answer comes before the cut at the same instant. -/
def taskStep? (simulation : Simulation) : Option Simulation :=
  let now := simulation.client.now
  match simulation.client.task with
  | .queued => some simulation.resume
  | .sleeping wake =>
    if simulation.client.cancelled ∨ wake ≤ now then some simulation.resume else none
  | .fetching _ cutOff =>
    match simulation.pending with
    | some (arrives, result) =>
      if arrives ≤ now then some (simulation.actWithDraw (.answer result))
      else if cutOff ≤ now then some (simulation.actWithDraw .cutOff)
      else none
    | none => if cutOff ≤ now then some (simulation.actWithDraw .cutOff) else none
  | .absent | .ended _ => none

/-- The next thing that happens at the present instant, if anything does. -/
def ready? (simulation : Simulation) : Option Simulation :=
  let client := simulation.client
  match client.waiters with
  | waiter :: _ =>
    if client.isReady then some (simulation.act .notice)
    else if waiter.givesUp ≤ client.now then some (simulation.act (.giveUp waiter.caller))
    else taskOrLock
  | [] => taskOrLock
where
  /-- A call goes on with the lock, or the task goes on. -/
  taskOrLock : Option Simulation :=
    if simulation.client.lockDue then
      if simulation.client.draining.isSome then some (simulation.act .drained)
      else some (simulation.act .takeLock)
    else simulation.taskStep?

/-- The next instant at which something happens, but not after the limit. -/
def nextInstant (simulation : Simulation) (limit : Instant) : Instant :=
  let arrival := match simulation.client.task, simulation.pending with
    | .fetching _ _, some (arrives, _) => [arrives]
    | _, _ => []
  (simulation.client.dues ++ arrival).foldl min limit

/-- Lets things happen until the condition holds or the limit is reached. -/
def runUntil (done : Client → Bool) (limit : Instant) : Nat → Simulation → Simulation
  | 0, simulation => simulation
  | fuel + 1, simulation =>
    if done simulation.client ∨ limit ≤ simulation.client.now then simulation
    else
      match simulation.ready? with
      | some next => runUntil done limit fuel next
      | none =>
        let target := simulation.nextInstant limit
        runUntil done limit fuel (simulation.act (.elapse (target - simulation.client.now)))

/-- A bound on the turns of a run up to an instant: eight for each step of the timers. -/
def fuelUntil (simulation : Simulation) (limit : Instant) : Nat :=
  8 * ((limit - simulation.client.now) / max simulation.client.timerStep 1 + 8)

/-- Lets time pass up to an instant. -/
def sleepUntil (simulation : Simulation) (limit : Instant) : Simulation :=
  simulation.runUntil (fun _ => false) limit (simulation.fuelUntil limit)

/-- Lets time pass for a duration. -/
def sleep (simulation : Simulation) (duration : Duration) : Simulation :=
  simulation.sleepUntil (simulation.client.timer duration)

/-- The latest instant by which a drain is over: the cut of the fetch in flight and one step more. -/
def drainLimit (simulation : Simulation) : Instant :=
  match simulation.client.task with
  | .fetching _ cutOff => cutOff + max simulation.client.timerStep 1
  | _ => simulation.client.now + max simulation.client.timerStep 1

/-- Lets things happen until so many calls have returned or panicked. -/
def untilAnswered (simulation : Simulation) (count : Nat) : Simulation :=
  simulation.runUntil (fun client => count ≤ client.answered.size + client.panickedCalls.size)
    simulation.drainLimit 32

/-- The caller of the next lifecycle call. -/
def nextCaller (simulation : Simulation) : Nat :=
  simulation.client.answered.size + simulation.client.panickedCalls.size

/-- A call to start, up to its return. -/
def start (simulation : Simulation) : Simulation :=
  (simulation.act (.call simulation.nextCaller .start)).untilAnswered (simulation.nextCaller + 1)

/-- A call to start with nothing to run a task on. -/
def startOutside (simulation : Simulation) : Simulation :=
  simulation.act (.startOutside simulation.nextCaller)

/-- What the last lifecycle call has returned. -/
def lastReply (simulation : Simulation) : Reply :=
  (simulation.client.answered.back?.map (·.2)).getD .done

/-- A call to stop, up to its return. -/
def stop (simulation : Simulation) : Simulation :=
  (simulation.act (.call simulation.nextCaller .stop)).untilAnswered (simulation.nextCaller + 1)

/-- Two calls to stop at the same time, up to the return of both. -/
def stopTwice (simulation : Simulation) : Simulation :=
  let caller := simulation.nextCaller
  ((simulation.act (.call caller .stop)).act (.call (caller + 1) .stop)).untilAnswered (caller + 2)

/-- A call to stop, and the status that is read after a while in the meantime; up to the return of the
call and that reading. -/
def stopWatched (simulation : Simulation) (duration : Duration) : Status × Simulation :=
  let caller := simulation.nextCaller
  let instant := simulation.client.timer duration
  let watched :=
    ((simulation.act (.call caller .stop)).act .takeLock).sleepUntil instant
  (watched.client.status, watched.untilAnswered (caller + 1))

/-- A call that waits for the first snapshot, up to its return, and whether there was one. -/
def waitReady (simulation : Simulation) (timeout : Duration) : Bool × Simulation :=
  let caller := simulation.client.readiness.size
  let limit := simulation.client.timer timeout
  let waiting := simulation.act (.await caller timeout)
  let waited := waiting.runUntil (fun client => caller < client.readiness.size)
    (limit + max simulation.client.timerStep 1) (waiting.fuelUntil limit + 8)
  ((waited.client.readiness.back?.map (·.2)).getD false, waited)

/-- Lets things happen until so many fetches have begun, for so many intervals of polls at most. -/
def untilFetches (simulation : Simulation) (count : Nat) : Simulation :=
  let limit := simulation.client.now
    + (count + 1) * 2 * (simulation.client.config.pollInterval.nanos + simulation.client.timerStep)
  simulation.runUntil (fun client => count ≤ client.fetches.size) limit (simulation.fuelUntil limit)

end Simulation

end LiveFlags
