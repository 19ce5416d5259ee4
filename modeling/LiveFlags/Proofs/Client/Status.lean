import LiveFlags.Proofs.Client.Numbering
import LiveFlags.Proofs.Client.Trail

/-!
# One task and one way

A client goes from idle to running to stopped and never back, and it spawns at most one task on its way.
Every spawn leaves its event in the log, so `Client.spawns` counts the tasks. There is one for a client
that has a task and none for a client that has none (`spawns_step`), and a task is never put in the place
of another (`Task.Follows`). Which call decides whether there is a task is read off the run: it is the first
one that takes the lock and does its work (`Client.entries`). The status that readers see is the one that the
lock guards whenever the lock is free, as long as no stop goes away while it holds the lock (`InStep`).
`lifecycle_safe` puts this together for every order of calls.
-/
namespace LiveFlags

/-- How far a client has come. -/
def Status.rank : Status → Nat
  | .idle => 0
  | .running => 1
  | .stopped => 2

/-- The event of a spawn. -/
def Event.isStart : Event → Bool
  | .started _ _ _ => true
  | _ => false

/-- The second task is the first one later on, or the first one of all. -/
def Task.Follows (earlier later : Task) : Prop :=
  (earlier ≠ .absent → later ≠ .absent) ∧
    (earlier ≠ .absent → earlier ≠ .queued → later ≠ .queued) ∧
    ∀ how, earlier = .ended how → later = earlier

/-- The action is no stop that goes away. -/
def Action.Completes : Action → Prop
  | .abandon _ => False
  | _ => True

namespace Task.Follows

theorem refl (task : Task) : task.Follows task := ⟨id, fun _ => id, fun _ _ => rfl⟩

theorem trans {first middle last : Task} (before : first.Follows middle) (after : middle.Follows last) :
    first.Follows last := by
  refine ⟨fun present => after.1 (before.1 present), fun present run => ?_, fun how past => ?_⟩
  · exact after.2.1 (before.1 present) (before.2.1 present run)
  · have same := before.2.2 how past
    rw [after.2.2 how (same.trans past), same]

/-- What has not ended may become anything that has been spawned before. -/
theorem of_live {earlier later : Task} (live : earlier.isOver = false) (present : later ≠ .absent)
    (run : later ≠ .queued) : earlier.Follows later := by
  refine ⟨fun _ => present, fun _ _ => run, fun how past => ?_⟩
  rw [past] at live
  contradiction

end Task.Follows

namespace Client

/-- How many tasks have been spawned. -/
def spawns (client : Client) : Nat := client.log.toList.countP Event.isStart

/-- What the call asks for that takes the lock with an action and does its work. A start that finds the last
sequence in the store panics before it has done anything. -/
def entering? (client : Client) (action : Action) : Option Request :=
  match action, client.queue with
  | .takeLock, (_, .stop) :: _ => some .stop
  | .takeLock, (_, .start) :: _ =>
    if client.guarded = .idle ∧ client.store.current.sequence.toNat = greatestSequence then none
    else some .start
  | _, _ => none

/-- What the calls ask for that take the lock along a run and do their work, in order. -/
def entries (client : Client) (actions : List Action) : List Request := client.trail entering? actions

variable {client next : Client} {action : Action} {actions : List Action}

/-- Events that are not of a spawn do not count. -/
theorem countP_append_of_forall {log : Array Event} {events : List Event}
    (other : ∀ event ∈ events, event.isStart = false) :
    (log ++ events).toList.countP Event.isStart = log.toList.countP Event.isStart := by
  have none : events.countP Event.isStart = 0 :=
    List.countP_eq_zero.mpr fun event member => by simp [other event member]
  rw [Array.toList_appendList, List.countP_append, none, Nat.add_zero]

/-- The store says nothing of a spawn. -/
theorem isStart_publishEvents (store : Store) (snapshot : Snapshot) :
    ∀ event ∈ store.publishEvents snapshot, event.isStart = false := by
  unfold Store.publishEvents
  split <;> simp [Event.isStart]

/-- The end of a poll spawns nothing. -/
theorem spawns_afterPoll (outcome : PollOutcome) (started : Instant) (draw : Draw) :
    (client.afterPoll outcome started draw).spawns = client.spawns := by
  refine countP_append_of_forall fun event member => ?_
  rcases List.mem_append.mp member with told | parting
  · cases outcome with
    | failure failure => simp_all [outcomeEvents, Event.isStart]
    | success snapshot =>
      rcases List.mem_append.mp told with offered | told
      · exact isStart_publishEvents _ _ event offered
      · split at told
        · split at told <;> simp_all [Event.isStart]
        · simp_all [Event.isStart]
  · unfold partingEvents at parting
    split at parting <;> simp_all [Event.isStart]

/-- A start that comes too late leaves one event, which is not of a spawn. -/
theorem log_enterStart (caller : Nat) (late : client.guarded ≠ .idle) :
    ∃ event : Event, event.isStart = false ∧ (client.enterStart caller).log = client.log ++ [event] := by
  cases guarded : client.guarded with
  | idle => exact absurd guarded late
  | running => exact ⟨.alreadyRunning, rfl, by simp [enterStart, answer, logging, guarded]⟩
  | stopped => exact ⟨.cannotRestart, rfl, by simp [enterStart, answer, logging, guarded]⟩

/-- A step keeps the task and spawns none, or spawns the first one. -/
theorem spawns_step (orderly : Orderly client) (stepped : client.step action = some next) :
    (client.task.Follows next.task ∧ next.spawns = client.spawns ∧
      (client.task = .absent → next.task = .absent)) ∨
    (client.task = .absent ∧ next.task = .queued ∧ next.spawns = client.spawns + 1) := by
  cases transition_of_step stepped with
  | starts caller rest free head idle =>
    refine .inr ⟨(orderly.idle idle).1, rfl, ?_⟩
    simp [spawns, startedEvent, Event.isStart]
  | startsAgain caller rest free head taken =>
    obtain ⟨event, other, logged⟩ :=
      @log_enterStart { client with queue := rest } caller taken
    refine .inl ⟨.refl _, ?_, id⟩
    unfold spawns
    rw [logged]
    exact countP_append_of_forall (by simp [other])
  | stopsIdle => exact .inl ⟨.refl _, countP_append_of_forall (by simp [Event.isStart]), id⟩
  | drains caller how holds past =>
    refine .inl ⟨.refl _, countP_append_of_forall ?_, id⟩
    cases how <;> simp [drainedEvents, Event.isStart]
  | exits woken told =>
    obtain ⟨present, live, _⟩ := rested_of_woken woken
    exact .inl ⟨.of_live live (by simp) (by simp), countP_append_of_forall (by simp [Event.isStart]),
      fun absent => absurd absent present⟩
  | begins due untold =>
    obtain ⟨present, live, _⟩ := rested_of_due due
    exact .inl ⟨.of_live live (by simp [beginPoll]) (by simp [beginPoll]), rfl,
      fun absent => absurd absent present⟩
  | answers result draw started cutOff fetching =>
    exact .inl ⟨.of_live (by simp [fetching, Task.isOver]) (client.isOver_taskAfter started draw).1
      (client.taskAfter_ne_queued started draw), spawns_afterPoll _ started draw,
      fun absent => by simp [fetching] at absent⟩
  | cutsOff draw started cutOff fetching late =>
    exact .inl ⟨.of_live (by simp [fetching, Task.isOver]) (client.isOver_taskAfter started draw).1
      (client.taskAfter_ne_queued started draw), spawns_afterPoll _ started draw,
      fun absent => by simp [fetching] at absent⟩
  | overflows _ _ started cutOff fetching | panics started cutOff fetching =>
    exact .inl ⟨.of_live (by simp [fetching, Task.isOver]) (by simp) (by simp), rfl,
      fun absent => by simp [fetching] at absent⟩
  | publishes snapshot =>
    exact .inl ⟨.refl _, countP_append_of_forall (isStart_publishEvents _ snapshot), id⟩
  | dropsRunning still running =>
    refine .inl ⟨?_, rfl, fun absent => absurd absent (orderly.running running).1⟩
    exact ⟨fun present => (isOver_abortTask present).1,
      fun present _ => by cases task : client.task <;> simp_all [abortTask],
      fun how past => by simp [past, abortTask]⟩
  | calls | refuses | startFails | cancels | stopsAgain | leavesDrain | leavesQueue | awaits | notices
  | givesUp | elapses | dropsOther => exact .inl ⟨.refl _, rfl, id⟩

/-- As many tasks have been spawned as there are. -/
def Counted (client : Client) : Prop := client.spawns = if client.task = .absent then 0 else 1

/-- A task that is spawned is the first one. -/
theorem counted_step (orderly : Orderly client) (stepped : client.step action = some next)
    (counted : Counted client) : Counted next := by
  unfold Counted at *
  rcases spawns_step orderly stepped with ⟨follows, same, none⟩ | ⟨absent, queued, one⟩
  · rw [same, counted]
    by_cases absent : client.task = .absent
    · rw [if_pos absent, if_pos (none absent)]
    · rw [if_neg absent, if_neg (follows.1 absent)]
  · rw [one, counted, if_pos absent, if_neg (by simp [queued])]

/-- Every run leaves as many tasks spawned as there are. -/
theorem counted_run (orderly : Orderly client) (counted : Counted client)
    (ran : client.run actions = some next) : Counted next :=
  run_keeps_of_orderly Counted (fun _ => True) (fun orderly _ => counted_step orderly)
    (fun _ _ => trivial) orderly ran counted

/-- A task is never put in the place of another. -/
theorem follows_run (orderly : Orderly client) (ran : client.run actions = some next) :
    client.task.Follows next.task := by
  induction actions generalizing client with
  | nil =>
    obtain rfl := Option.some.inj ran
    exact .refl _
  | cons action actions ih =>
    obtain ⟨middle, stepped, ran⟩ := run_cons ran
    have later := ih (orderly_step stepped orderly) ran
    rcases spawns_step orderly stepped with ⟨follows, _, _⟩ | ⟨absent, _, _⟩
    · exact follows.trans later
    · simp [Task.Follows, absent]

/-- What readers see goes with what the lock guards. -/
structure Seen (client : Client) : Prop where
  /-- Before the client is stopped the two are the same. -/
  early : client.guarded ≠ .stopped → client.status = client.guarded
  /-- Readers of a stopped client see that it has been started, at least. -/
  late : client.guarded = .stopped → client.status ≠ .idle

/-- Every step leaves the two together. -/
theorem seen_step (orderly : Orderly client) (stepped : client.step action = some next)
    (seen : Seen client) : Seen next := by
  have unchanged := seen
  obtain ⟨early, late⟩ := seen
  cases transition_of_step stepped with
  | starts | stopsIdle => exact ⟨by simp, by simp⟩
  | stopsAgain _ _ _ _ stopped => exact ⟨by simp [stopped], by simp⟩
  | cancels _ _ _ _ running => exact ⟨by simp, fun _ => by simp [early, running]⟩
  | drains caller how holds past => exact ⟨by simp [(orderly.draining caller holds).1], by simp⟩
  | calls | refuses | startFails | startsAgain | leavesDrain | leavesQueue | exits | begins | answers
  | cutsOff | overflows | panics | publishes | awaits | notices | givesUp | elapses | dropsRunning
  | dropsOther => exact ⟨early, late⟩

/-- A client that has not done anything is seen idle. -/
theorem seen_initial (config : Config) (timerStep : Nat) : Seen (initial config timerStep) :=
  ⟨fun _ => rfl, by simp [initial]⟩

/-- Every run leaves the two together. -/
theorem seen_run (orderly : Orderly client) (seen : Seen client) (ran : client.run actions = some next) :
    Seen next :=
  run_keeps_of_orderly Seen (fun _ => True) (fun orderly _ => seen_step orderly)
    (fun _ _ => trivial) orderly ran seen

/-- The status that readers see never goes back. -/
theorem rank_step (stepped : client.step action = some next) (seen : Seen client) :
    client.status.rank ≤ next.status.rank := by
  cases transition_of_step stepped with
  | starts _ _ _ _ idle => simp [seen.early, idle, Status.rank]
  | stopsIdle | stopsAgain | drains => cases client.status <;> simp [Status.rank]
  | _ => exact Nat.le_refl _

/-- The status that readers see never goes back along a run. -/
theorem rank_run (orderly : Orderly client) (seen : Seen client) (ran : client.run actions = some next) :
    client.status.rank ≤ next.status.rank := by
  have kept := run_keeps_of_orderly
    (fun middle => Seen middle ∧ client.status.rank ≤ middle.status.rank) (fun _ => True)
    (fun orderly _ stepped held => ⟨seen_step orderly stepped held.1,
      Nat.le_trans held.2 (rank_step stepped held.1)⟩)
    (fun _ _ => trivial) orderly ran ⟨seen, Nat.le_refl _⟩
  exact kept.2

/-- A client that readers see stopped is stopped for good. -/
theorem status_of_stopped (orderly : Orderly client) (seen : Seen client)
    (ran : client.run actions = some next) (stopped : client.status = .stopped) :
    next.status = .stopped := by
  have further := rank_run orderly seen ran
  rw [stopped] at further
  cases status : next.status with
  | stopped => rfl
  | idle | running => simp [status, Status.rank] at further

/-- While the lock is free readers see what it guards. -/
def InStep (client : Client) : Prop := client.draining = none → client.status = client.guarded

/-- As long as no stop goes away, readers see what the lock guards whenever it is free. -/
theorem inStep_step (orderly : Orderly client) (completes : action.Completes)
    (stepped : client.step action = some next) (inStep : InStep client) : InStep next := by
  have unchanged := inStep
  intro free
  cases transition_of_step stepped with
  | starts | stopsIdle => rfl
  | stopsAgain _ _ _ _ stopped => exact stopped.symm
  | cancels => simp at free
  | drains caller how holds past => exact (orderly.draining caller holds).1.symm
  | leavesDrain | leavesQueue => exact completes.elim
  | calls | refuses | startFails | startsAgain | exits | begins | answers | cutsOff | overflows | panics
  | publishes | awaits | notices | givesUp | elapses | dropsRunning | dropsOther => exact unchanged free

/-- What the lock guards is past its beginning once a call has done its work, and only then. -/
theorem guarded_step (stepped : client.step action = some next) :
    (∀ request, client.entering? action = some request → next.guarded ≠ .idle) ∧
      (client.entering? action = none → next.guarded = client.guarded) := by
  cases transition_of_step stepped with
  | starts _ _ _ head _ _ counts =>
    have room := (toNat_of_successor? counts).1
    exact ⟨by simp, fun none => by simp [entering?, head, Nat.ne_of_lt room] at none⟩
  | startFails _ _ _ head idle last =>
    have greatest := successor?_eq_none_iff.mp last
    exact ⟨by simp [entering?, head, idle, greatest], fun _ => rfl⟩
  | cancels _ _ _ head | stopsIdle _ _ _ head =>
    exact ⟨by simp, fun none => by simp [entering?, head] at none⟩
  | startsAgain _ _ _ _ taken => exact ⟨fun _ _ => taken, fun _ => rfl⟩
  | stopsAgain _ _ _ _ stopped => exact ⟨by simp [stopped], fun _ => rfl⟩
  | _ => exact ⟨by simp [entering?], fun _ => rfl⟩

/-- A client is idle as long as no call has done its work. -/
theorem idle_iff (ran : client.run actions = some next) :
    next.guarded = .idle ↔ client.guarded = .idle ∧ client.entries actions = [] := by
  induction actions generalizing client with
  | nil =>
    obtain rfl := Option.some.inj ran
    simp [entries, trail, Machine.trail]
  | cons action actions ih =>
    obtain ⟨middle, stepped, ran⟩ := run_cons ran
    obtain ⟨taken, others⟩ := guarded_step stepped
    have first : client.entries (action :: actions) = (client.entering? action).toList ++ middle.entries actions :=
      Machine.trail_cons stepped
    rw [ih ran, first]
    cases enters : client.entering? action with
    | some request => simp [taken request enters]
    | none => simp [others enters]

/-- A client that was stopped before any start stays without a task, and nothing is recorded. -/
theorem barren_run (ran : client.run actions = some next) (stopped : client.guarded = .stopped)
    (absent : client.task = .absent) :
    next.task = .absent ∧ next.tracker = client.tracker ∧ next.fetches = client.fetches := by
  have kept := run_keeps
    (fun middle => middle.guarded = .stopped ∧ middle.task = .absent ∧
      middle.tracker = client.tracker ∧ middle.fetches = client.fetches) (fun _ => True)
    (fun _ stepped held => by
      obtain ⟨stopped, absent, record⟩ := held
      refine ⟨stopped_step stepped stopped, ?_⟩
      cases transition_of_step stepped with
      | starts _ _ _ _ idle => simp [stopped] at idle
      | exits woken => exact absurd absent (rested_of_woken woken).1
      | begins due => exact absurd absent (rested_of_due due).1
      | answers _ _ _ _ fetching | cutsOff _ _ _ fetching _ | overflows _ _ _ _ fetching
      | panics _ _ fetching => simp [absent] at fetching
      | dropsRunning _ running => simp [stopped] at running
      | _ => exact ⟨absent, record⟩)
    (fun _ _ => trivial) ran ⟨stopped, absent, rfl, rfl⟩
  exact kept.2

/-- What holds of the life of a client in a state that these actions have led to from its beginning, and
from it on. -/
structure LivesOnce (first : Client) (actions : List Action) (client : Client) : Prop where
  /-- One task has been spawned if there is a task, and none otherwise. -/
  spawnsOnce : client.spawns = if client.task = .absent then 0 else 1
  /-- The task is never put in the place of another. -/
  keepsTask : ∀ later next, client.run later = some next → client.task.Follows next.task
  /-- The status that readers see never goes back. -/
  goesForward : ∀ later next, client.run later = some next → client.status.rank ≤ next.status.rank
  /-- If every call runs to completion, readers see what the lock guards whenever no call holds it. -/
  showsGuarded : (∀ action ∈ actions, action.Completes) → client.draining = none →
    client.status = client.guarded
  /-- The first call to do its work spawns the task if it is a start. It panics if the visible sequence is the
  last one, and then it changes nothing. -/
  firstStart : first.entries actions = [] → ∀ caller rest, client.queue = (caller, .start) :: rest →
    (client.store.current.sequence.toNat < greatestSequence ∧ ∃ next, client.step .takeLock = some next ∧
      next.answered = client.answered.push (caller, .done) ∧ next.task = .queued ∧ next.spawns = 1 ∧
      next.status = .running ∧ next.guarded = .running) ∨
    (client.store.current.sequence.toNat = greatestSequence ∧ client.step .takeLock = some { client with
      queue := rest
      panickedCalls := client.panickedCalls.push caller })
  /-- A start that takes the lock after another call has done its work returns without an error and changes
  nothing. -/
  laterStart : first.entries actions ≠ [] → ∀ caller rest, client.draining = none →
    client.queue = (caller, .start) :: rest → ∃ event : Event, event.isStart = false ∧
      client.step .takeLock = some { client with
        queue := rest
        log := client.log ++ [event]
        answered := client.answered.push (caller, .done) }
  /-- A start with nothing to run a task on is refused and changes nothing. -/
  startOutside : ∀ caller, client.step (.startOutside caller) =
    some { client with answered := client.answered.push (caller, .noRuntime) }
  /-- If a stop is the first call to do its work it returns at once, and no task is ever spawned. -/
  firstStop : first.entries actions = [] → ∀ caller rest,
    client.queue = (caller, .stop) :: rest → ∃ next, client.step .takeLock = some next ∧
      next.answered = client.answered.push (caller, .done) ∧ next.status = .stopped ∧
      ∀ later last, next.run later = some last → last.task = .absent ∧ last.spawns = 0 ∧
        last.status = .stopped ∧ last.tracker = client.tracker ∧ last.fetches = client.fetches

/-- The first call spawns the task if it is a start, unless the visible sequence is the last one. -/
theorem spawns_of_firstStart {caller : Nat} {rest : List (Nat × Request)} (orderly : Orderly client)
    (counted : Counted client) (idle : client.guarded = .idle)
    (head : client.queue = (caller, .start) :: rest) :
    (client.store.current.sequence.toNat < greatestSequence ∧ ∃ next, client.step .takeLock = some next ∧
      next.answered = client.answered.push (caller, .done) ∧ next.task = .queued ∧ next.spawns = 1 ∧
      next.status = .running ∧ next.guarded = .running) ∨
    (client.store.current.sequence.toNat = greatestSequence ∧ client.step .takeLock = some { client with
      queue := rest
      panickedCalls := client.panickedCalls.push caller }) := by
  obtain ⟨absent, _, free, _⟩ := orderly.idle idle
  have taken : ∃ next, client.step .takeLock = some next := by simp [step, takeLock?, free, head]
  obtain ⟨next, stepped⟩ := taken
  have one := counted_step orderly stepped counted
  rw [stepped]
  cases transition_of_step stepped with
  | starts _ _ _ head' _ _ counts =>
    obtain ⟨same, rfl⟩ := List.cons.inj (head.symm.trans head')
    obtain ⟨rfl, _⟩ := Prod.mk.inj same
    exact .inl ⟨(toNat_of_successor? counts).1, _, rfl, rfl, rfl, by simpa [Counted] using one, rfl, rfl⟩
  | startFails _ _ _ head' _ last =>
    obtain ⟨same, rfl⟩ := List.cons.inj (head.symm.trans head')
    obtain ⟨rfl, _⟩ := Prod.mk.inj same
    exact .inr ⟨successor?_eq_none_iff.mp last, rfl⟩
  | startsAgain _ _ _ _ late => exact absurd idle late
  | cancels _ _ _ head' | stopsIdle _ _ _ head' | stopsAgain _ _ _ head' => simp [head] at head'

/-- A start that comes too late changes nothing but the log. -/
theorem step_of_laterStart {caller : Nat} {rest : List (Nat × Request)} (late : client.guarded ≠ .idle)
    (free : client.draining = none) (head : client.queue = (caller, .start) :: rest) :
    ∃ event : Event, event.isStart = false ∧ client.step .takeLock = some { client with
      queue := rest
      log := client.log ++ [event]
      answered := client.answered.push (caller, .done) } := by
  obtain ⟨event, other, logged⟩ := @log_enterStart { client with queue := rest } caller late
  refine ⟨event, other, ?_⟩
  have taken : ∃ next, client.step .takeLock = some next := by simp [step, takeLock?, free, head]
  obtain ⟨next, stepped⟩ := taken
  rw [stepped]
  cases transition_of_step stepped with
  | starts _ _ _ _ idle | startFails _ _ _ _ idle => exact absurd idle late
  | startsAgain _ _ _ head' _ =>
    obtain ⟨same, rfl⟩ := List.cons.inj (head.symm.trans head')
    obtain ⟨rfl, _⟩ := Prod.mk.inj same
    rw [logged]
  | cancels _ _ _ head' | stopsIdle _ _ _ head' | stopsAgain _ _ _ head' => simp [head] at head'

/-- A stop that is the first call to take the lock keeps the client without a task for good. -/
theorem barren_of_firstStop {caller : Nat} {rest : List (Nat × Request)} (orderly : Orderly client)
    (counted : Counted client) (seen : Seen client) (idle : client.guarded = .idle)
    (head : client.queue = (caller, .stop) :: rest) :
    ∃ next, client.step .takeLock = some next ∧ next.answered = client.answered.push (caller, .done) ∧
      next.status = .stopped ∧
      ∀ later last, next.run later = some last → last.task = .absent ∧ last.spawns = 0 ∧
        last.status = .stopped ∧ last.tracker = client.tracker ∧ last.fetches = client.fetches := by
  obtain ⟨absent, _, free, _⟩ := orderly.idle idle
  have taken : ∃ next, client.step .takeLock = some next := by simp [step, takeLock?, free, head]
  obtain ⟨next, stepped⟩ := taken
  have orderly' := orderly_step stepped orderly
  have counted' := counted_step orderly stepped counted
  have seen' := seen_step orderly stepped seen
  refine ⟨next, stepped, ?_⟩
  cases transition_of_step stepped with
  | starts _ _ _ head' | startFails _ _ _ head' | startsAgain _ _ _ head' => simp [head] at head'
  | cancels _ _ _ _ running => simp [idle] at running
  | stopsAgain _ _ _ _ stopped => simp [idle] at stopped
  | stopsIdle _ _ _ head' _ =>
    obtain ⟨same, rfl⟩ := List.cons.inj (head.symm.trans head')
    obtain ⟨rfl, _⟩ := Prod.mk.inj same
    refine ⟨rfl, rfl, fun later last ran => ?_⟩
    obtain ⟨still, tracker, fetches⟩ := barren_run ran rfl absent
    have none := counted_run orderly' counted' ran
    rw [Counted, if_pos still] at none
    exact ⟨still, none, status_of_stopped orderly' seen' ran rfl, tracker, fetches⟩

/-- In every state that any calls can lead to, in any order and with or without something to run a task
on, a client has spawned one task at most, its status goes forward only, and only the first call to take
the lock decides whether there is a task. -/
theorem lifecycle_safe (config : Config) (timerStep : Nat) (actions : List Action) (client : Client)
    (ran : (initial config timerStep).run actions = some client) :
    LivesOnce (initial config timerStep) actions client := by
  have fresh := orderly_initial config timerStep
  have orderly := orderly_run ran
  have counted : Counted client := counted_run fresh rfl ran
  have seen := seen_run fresh (seen_initial config timerStep) ran
  have idle_of_first : (initial config timerStep).entries actions = [] → client.guarded = .idle :=
    fun first => (idle_iff ran).mpr ⟨rfl, first⟩
  constructor
  case spawnsOnce => exact counted
  case keepsTask =>
    intro later next ran'
    exact follows_run orderly ran'
  case goesForward =>
    intro later next ran'
    exact rank_run orderly seen ran'
  case showsGuarded =>
    intro completes
    exact run_keeps_of_orderly InStep Action.Completes inStep_step completes fresh ran fun _ => rfl
  case firstStart =>
    intro first caller rest head
    exact spawns_of_firstStart orderly counted (idle_of_first first) head
  case laterStart =>
    intro entered caller rest free head
    exact step_of_laterStart (fun idle => entered ((idle_iff ran).mp idle).2) free head
  case startOutside =>
    intro caller
    rfl
  case firstStop =>
    intro first caller rest head
    exact barren_of_firstStop orderly counted seen (idle_of_first first) head

/-- Two starts and a stop take the lock while the first fetch is in flight, and a third start waits for
the stop. -/
def crowdedCalls : List Action :=
  [.call 0 .start, .call 1 .start, .startOutside 2, .takeLock, .takeLock, .resume, .call 3 .stop,
    .call 4 .start, .takeLock]

/-- After these calls one task has been spawned, readers still see the client running, and all that is
claimed holds. -/
theorem lifecycle_safe_crowdedCalls :
    ∃ client, (initial .default 1000000).run crowdedCalls = some client ∧
      client.spawns = 1 ∧ client.status = .running ∧ client.guarded = .stopped ∧
      client.queue = [(4, .start)] ∧ (initial .default 1000000).entries crowdedCalls = [.start, .start, .stop] ∧
      LivesOnce (initial .default 1000000) crowdedCalls client := by
  have ran : (initial .default 1000000).run crowdedCalls = some _ := rfl
  exact ⟨_, ran, rfl, rfl, rfl, rfl, rfl, lifecycle_safe .default 1000000 crowdedCalls _ ran⟩

end Client

end LiveFlags
