import LiveFlags.Proofs.Client.Calls
import LiveFlags.Proofs.Client.Status

/-!
# Running and polling

A poll task that nobody tells to stop ends by a fault only (`Fault`): its source panics, the end of its
wait cannot be named, or there is no sequence after that of its snapshot. Every other poll, whatever comes
of it, leaves the task in its loop (`faults_run`), and then the next poll begins as soon as it is due
(`polls_next`). A fault is the end of polling, and nothing that readers see says so (`ended_run`). So a
client that is seen running polls on exactly if there has been no fault (`polls_on_iff_faultless`).
-/
namespace LiveFlags

/-- What ends a poll task that nobody has told to stop. -/
inductive Fault where
  /-- The source has panicked. -/
  | sourcePanics
  /-- The end of the wait after a poll cannot be named. -/
  | namelessWake
  /-- There is no sequence after that of a snapshot. -/
  | lastSequence
  deriving DecidableEq, Repr

/-- How the fault ends the task. -/
def Fault.ending : Fault → Ending
  | .sourcePanics => .panicked true
  | .namelessWake => .panicked false
  | .lastSequence => .panicked true

/-- The action is no call to stop, and the owner keeps the client. -/
def Action.KeepsOn : Action → Prop
  | .call _ .stop | .drop => False
  | _ => True

namespace Client

/-- The fault that the end of a poll brings, if it brings one. -/
def wakeFault? (client : Client) (started : Instant) (draw : Draw) : Option Fault :=
  if client.nextWake? started draw = none then some .namelessWake else none

/-- The fault that an action brings, if it brings one. -/
def fault? (client : Client) (action : Action) : Option Fault :=
  match action, client.task with
  | .panic, .fetching _ _ => some .sourcePanics
  | .answer result draw, .fetching started _ =>
    if client.sequenceAfter? (client.outcome result) = none then some .lastSequence
    else client.wakeFault? started draw
  | .cutOff draw, .fetching started _ => client.wakeFault? started draw
  | _, _ => none

/-- The faults along a run, in order. -/
def faults (client : Client) : List Action → List Fault
  | [] => []
  | action :: actions =>
    match client.step action with
    | none => []
    | some next => (client.fault? action).toList ++ next.faults actions

/-- Nobody has asked to stop the client. -/
structure Unstopped (client : Client) : Prop where
  /-- The client has not been stopped. -/
  guarded : client.guarded ≠ .stopped
  /-- Only starts wait for the lock. -/
  queue : ∀ call ∈ client.queue, call.2 = .start
  /-- The task has not been told to stop. -/
  untold : client.cancelled = false

/-- The instant by which the next poll begins if none is in flight. -/
def nextPoll (client : Client) : Instant :=
  match client.task with
  | .sleeping wake => max client.now wake
  | _ => client.now

variable {client next : Client} {action : Action} {actions : List Action}

/-- The faults of a run are those of its first step and those of the rest. -/
theorem faults_cons (stepped : client.step action = some next) :
    client.faults (action :: actions) = (client.fault? action).toList ++ next.faults actions := by
  simp only [faults, stepped]

/-- A client that has not done anything has not been stopped. -/
theorem unstopped_initial (config : Config) (timerStep : Nat) : Unstopped (initial config timerStep) :=
  ⟨by simp [initial], by simp [initial], rfl⟩

/-- Every step but a stop leaves a client unstopped. -/
theorem unstopped_step (orderly : Orderly client) (keepsOn : action.KeepsOn)
    (stepped : client.step action = some next) (unstopped : Unstopped client) : Unstopped next := by
  have unchanged := unstopped
  obtain ⟨guarded, queue, untold⟩ := unstopped
  have rest_of_head : ∀ {head : Nat × Request} {rest : List (Nat × Request)},
      client.queue = head :: rest → head.2 = .start ∧ ∀ call ∈ rest, call.2 = .start := by
    intro head rest same
    rw [same] at queue
    exact List.forall_mem_cons.mp queue
  cases transition_of_step stepped with
  | calls caller request =>
    refine ⟨guarded, ?_, untold⟩
    cases request with
    | start => simpa [or_imp, forall_and] using queue
    | stop => exact keepsOn.elim
  | starts _ _ _ head => exact ⟨by simp, (rest_of_head head).2, rfl⟩
  | startFails _ _ _ head => exact ⟨guarded, (rest_of_head head).2, untold⟩
  | startsAgain _ _ _ head => exact ⟨guarded, (rest_of_head head).2, untold⟩
  | cancels _ _ _ head | stopsIdle _ _ _ head | stopsAgain _ _ _ head =>
    have start := (rest_of_head head).1
    contradiction
  | drains caller _ holds | leavesDrain caller holds =>
    exact absurd (orderly.draining caller holds).1 guarded
  | leavesQueue => exact ⟨guarded, fun call member => queue call (List.mem_filter.mp member).1, untold⟩
  | dropsRunning | dropsOther => exact keepsOn.elim
  | refuses | exits | begins | answers | cutsOff | overflows | panics | publishes | awaits | notices
  | givesUp | elapses => exact ⟨guarded, queue, untold⟩

/-- What a poll leaves of its task, if nobody has told it to stop: it sleeps, or has ended by a fault. -/
theorem taskAfter_of_untold (untold : client.cancelled = false) (started : Instant) (draw : Draw) :
    (client.wakeFault? started draw = none ∧ ∃ wake, client.taskAfter started draw = .sleeping wake) ∨
      ∃ fault, client.wakeFault? started draw = some fault ∧
        client.taskAfter started draw = .ended fault.ending := by
  unfold wakeFault? taskAfter
  cases client.nextWake? started draw with
  | none => exact .inr ⟨.namelessWake, rfl, rfl⟩
  | some wake => exact .inl ⟨by simp, client.roundUp wake, by simp [untold]⟩

/-- A task that has not ended goes on, or a fault has ended it. -/
theorem fault_step (unstopped : Unstopped client) (keepsOn : action.KeepsOn)
    (stepped : client.step action = some next) (goesOn : ∀ how, client.task ≠ .ended how) :
    (client.fault? action = none ∧ ∀ how, next.task ≠ .ended how) ∨
      ∃ fault, client.fault? action = some fault ∧ next.task = .ended fault.ending := by
  cases transition_of_step stepped with
  | starts => exact .inl ⟨rfl, by simp⟩
  | exits _ told => simp [unstopped.untold] at told
  | begins => exact .inl ⟨rfl, by simp [beginPoll]⟩
  | answers result draw started cutOff fetching sequence counts =>
    rcases taskAfter_of_untold unstopped.untold started draw with ⟨none, wake, left⟩ | ⟨fault, some, left⟩
    · exact .inl ⟨by simp [fault?, fetching, counts, none], by simp [left]⟩
    · exact .inr ⟨fault, by simp [fault?, fetching, counts, some], left⟩
  | cutsOff draw started cutOff fetching late =>
    rcases taskAfter_of_untold unstopped.untold started draw with ⟨none, wake, left⟩ | ⟨fault, some, left⟩
    · exact .inl ⟨by simp [fault?, fetching, none], by simp [left]⟩
    · exact .inr ⟨fault, by simp [fault?, fetching, some], left⟩
  | overflows result draw started cutOff fetching last =>
    exact .inr ⟨.lastSequence, by simp [fault?, fetching, last], rfl⟩
  | panics started cutOff fetching => exact .inr ⟨.sourcePanics, by simp [fault?, fetching], rfl⟩
  | dropsRunning | dropsOther => exact keepsOn.elim
  | calls | refuses | startFails | startsAgain | cancels | stopsIdle | stopsAgain | drains | leavesDrain
  | leavesQueue | publishes | awaits | notices | givesUp | elapses => exact .inl ⟨rfl, goesOn⟩

/-- Once the task has ended no fetch begins, nothing is counted and no fault comes, and as long as nobody
stops the client readers see the same status. -/
theorem ended_step {how : Ending} (orderly : Orderly client) (unstopped : Unstopped client)
    (keepsOn : action.KeepsOn) (stepped : client.step action = some next)
    (past : client.task = .ended how) :
    (next.task = client.task ∧ next.status = client.status ∧ next.fetches = client.fetches ∧
      next.tracker = client.tracker) ∧ client.fault? action = none := by
  refine ⟨?_, by cases action <;> simp [fault?, past]⟩
  cases transition_of_step stepped with
  | starts _ _ _ _ idle => simp [(orderly.idle idle).1] at past
  | cancels _ _ _ head | stopsIdle _ _ _ head | stopsAgain _ _ _ head =>
    have start := unstopped.queue _ (head ▸ List.mem_cons_self)
    contradiction
  | drains caller _ holds => exact absurd (orderly.draining caller holds).1 unstopped.guarded
  | exits woken => simp [past] at woken
  | begins due => simp [past] at due
  | answers _ _ _ _ fetching | cutsOff _ _ _ fetching _ | overflows _ _ _ _ fetching
  | panics _ _ fetching => simp [past] at fetching
  | dropsRunning | dropsOther => exact keepsOn.elim
  | calls | refuses | startFails | startsAgain | leavesDrain | leavesQueue | publishes | awaits | notices
  | givesUp | elapses => exact ⟨rfl, rfl, rfl, rfl⟩

/-- Once the task has ended nothing happens any more, and nothing that readers see says so. -/
theorem ended_run {how : Ending} (orderly : Orderly client) (unstopped : Unstopped client)
    (keepsOn : ∀ action ∈ actions, action.KeepsOn) (ran : client.run actions = some next)
    (past : client.task = .ended how) :
    (next.task = client.task ∧ next.status = client.status ∧ next.fetches = client.fetches ∧
      next.tracker = client.tracker) ∧ client.faults actions = [] := by
  induction actions generalizing client with
  | nil =>
    obtain rfl := Option.some.inj ran
    exact ⟨⟨rfl, rfl, rfl, rfl⟩, rfl⟩
  | cons action actions ih =>
    obtain ⟨middle, stepped, ran⟩ := run_cons ran
    obtain ⟨here, later⟩ := List.forall_mem_cons.mp keepsOn
    obtain ⟨⟨task, status, fetches, tracker⟩, none⟩ := ended_step orderly unstopped here stepped past
    obtain ⟨⟨task', status', fetches', tracker'⟩, none'⟩ :=
      ih (orderly_step stepped orderly) (unstopped_step orderly here stepped unstopped) later ran
        (task.trans past)
    refine ⟨⟨task'.trans task, status'.trans status, fetches'.trans fetches, tracker'.trans tracker⟩, ?_⟩
    rw [faults_cons stepped, none, none']
    rfl

/-- As long as nobody stops the client its task goes on, or one fault has come and has ended it. -/
theorem faults_run (orderly : Orderly client) (unstopped : Unstopped client)
    (keepsOn : ∀ action ∈ actions, action.KeepsOn) (ran : client.run actions = some next)
    (goesOn : ∀ how, client.task ≠ .ended how) :
    (client.faults actions = [] ∧ ∀ how, next.task ≠ .ended how) ∨
      ∃ fault, client.faults actions = [fault] ∧ next.task = .ended fault.ending := by
  induction actions generalizing client with
  | nil =>
    obtain rfl := Option.some.inj ran
    exact .inl ⟨rfl, goesOn⟩
  | cons action actions ih =>
    obtain ⟨middle, stepped, ran⟩ := run_cons ran
    obtain ⟨here, later⟩ := List.forall_mem_cons.mp keepsOn
    have orderly' := orderly_step stepped orderly
    have unstopped' := unstopped_step orderly here stepped unstopped
    rw [faults_cons stepped]
    rcases fault_step unstopped here stepped goesOn with ⟨none, goesOn'⟩ | ⟨fault, came, past⟩
    · rw [none]
      exact ih orderly' unstopped' later ran goesOn'
    · obtain ⟨⟨same, _⟩, none⟩ := ended_run orderly' unstopped' later ran past
      exact .inr ⟨fault, by rw [came, none]; rfl, same.trans past⟩

/-- A run without a stop leaves the client unstopped. -/
theorem unstopped_run (orderly : Orderly client) (unstopped : Unstopped client)
    (keepsOn : ∀ action ∈ actions, action.KeepsOn) (ran : client.run actions = some next) :
    Unstopped next :=
  run_keeps_of_orderly Unstopped Action.KeepsOn unstopped_step keepsOn orderly ran unstopped

/-- The next poll has not begun and is not overdue, or it has begun. -/
def PollsBy (begun : Nat) (limit : Instant) (client : Client) : Prop :=
  (client.fetches.size = begun ∧ client.now ≤ limit ∧
    (client.task = .queued ∨ ∃ wake, client.task = .sleeping wake ∧ wake ≤ limit)) ∨
  begun < client.fetches.size

/-- Time does not pass the instant at which the next poll is due. -/
theorem pollsBy_step {begun : Nat} {limit : Instant} (orderly : Orderly client)
    (unstopped : Unstopped client) (keepsOn : action.KeepsOn) (stepped : client.step action = some next)
    (polls : PollsBy begun limit client) : PollsBy begun limit next := by
  have grows := size_fetches_le stepped
  rcases polls with ⟨same, inTime, waits⟩ | past
  · have present : client.task ≠ .absent ∧ ∀ started cutOff, client.task ≠ .fetching started cutOff := by
      rcases waits with queued | ⟨wake, sleeping, _⟩
      · simp [queued]
      · simp [sleeping]
    cases transition_of_step stepped with
    | starts _ _ _ _ idle => exact absurd (orderly.idle idle).1 present.1
    | exits _ told => simp [unstopped.untold] at told
    | begins => exact .inr (by simp [beginPoll, same])
    | answers _ _ started cutOff fetching | cutsOff _ started cutOff fetching
    | overflows _ _ started cutOff fetching | panics started cutOff fetching =>
      exact absurd fetching (present.2 started cutOff)
    | elapses nanos inTime' =>
      refine .inl ⟨same, ?_, waits⟩
      rcases waits with queued | ⟨wake, sleeping, soon⟩
      · exact Nat.le_trans (le_of_taskDue inTime' (by simp [taskDue?, queued])) inTime
      · exact Nat.le_trans (le_of_taskDue inTime' (by simp [taskDue?, sleeping, unstopped.untold])) soon
    | dropsRunning | dropsOther => exact keepsOn.elim
    | calls | refuses | startFails | startsAgain | cancels | stopsIdle | stopsAgain | drains | leavesDrain
    | leavesQueue | publishes | awaits | notices | givesUp => exact .inl ⟨same, inTime, waits⟩
  · exact .inr (Nat.lt_of_lt_of_le past grows)

/-- In every run without a stop the next poll begins when it is due, if none is in flight. -/
theorem pollsBy_run {begun : Nat} {limit : Instant} (orderly : Orderly client)
    (unstopped : Unstopped client) (keepsOn : ∀ action ∈ actions, action.KeepsOn)
    (ran : client.run actions = some next) (polls : PollsBy begun limit client) :
    begun < next.fetches.size ∨ next.now ≤ limit := by
  have kept := run_keeps_of_orderly
    (fun middle => Unstopped middle ∧ PollsBy begun limit middle) Action.KeepsOn
    (fun orderly here stepped held => ⟨unstopped_step orderly here stepped held.1,
      pollsBy_step orderly held.1 here stepped held.2⟩)
    keepsOn orderly ran ⟨unstopped, polls⟩
  rcases kept.2 with ⟨_, inTime, _⟩ | past
  · exact .inr inTime
  · exact .inl past

/-- The starts that wait for the lock of a client that has been started can all return at once. -/
theorem queue_empties (free : client.draining = none) (taken : client.guarded ≠ .idle)
    (starts : ∀ call ∈ client.queue, call.2 = .start) :
    ∃ later log answered, (∀ action ∈ later, action.Internal) ∧
      client.run later = some { client with queue := [], log := log, answered := answered } := by
  induction calls : client.queue generalizing client with
  | nil => exact ⟨[], client.log, client.answered, by simp, by rw [run, ← calls]⟩
  | cons call rest ih =>
    obtain ⟨caller, request⟩ := call
    rw [calls] at starts
    obtain ⟨rfl, others⟩ := List.forall_mem_cons.mp starts
    obtain ⟨event, _, stepped⟩ := step_of_laterStart taken free calls
    obtain ⟨later, log, answered, own, ran⟩ :=
      @ih { client with
        queue := rest
        log := client.log ++ [event]
        answered := client.answered.push (caller, .done) } free taken others rfl
    refine ⟨.takeLock :: later, log, answered, ?_, ?_⟩
    · exact List.forall_mem_cons.mpr ⟨trivial, own⟩
    · rw [run, stepped]
      exact ran

/-- A task that is due begins a poll. -/
theorem begins_of_due (untold : client.cancelled = false)
    (due : client.task = .queued ∨ ∃ wake ≤ client.now, client.task = .sleeping wake) :
    client.run [.resume] = some client.beginPoll := by
  rcases due with queued | ⟨wake, late, sleeping⟩
  · simp [run, step, resume?, queued, untold]
  · simp [run, step, resume?, sleeping, untold, late]

/-- Time can pass up to the instant at which the task wakes, whoever calls or waits meanwhile. -/
theorem reaches_wake {wake : Instant} (orderly : Orderly client) (unstopped : Unstopped client)
    (sleeping : client.task = .sleeping wake) (soon : client.now ≤ wake) :
    ∃ later next, (∀ action ∈ later, action.Internal) ∧ client.run later = some next ∧
      next.task = client.task ∧ next.cancelled = client.cancelled ∧ next.fetches = client.fetches ∧
      next.now = wake := by
  have taken : client.guarded ≠ .idle := by
    intro idle
    simp [(orderly.idle idle).1] at sleeping
  have free : client.draining = none := by
    cases holds : client.draining with
    | none => rfl
    | some caller => exact absurd (orderly.draining caller holds).1 unstopped.guarded
  obtain ⟨first, log, answered, own, ran⟩ := queue_empties free taken unstopped.queue
  obtain ⟨last, left, readiness, owns, ran'⟩ :=
    @reaches_of_awaitsUntil { client with queue := [], log := log, answered := answered } wake
      ⟨.inr ⟨sleeping, unstopped.untold⟩, by simp [lockDue, free]⟩ soon
  have reached := @run_append client first last
  rw [ran] at reached
  refine ⟨first ++ last, _, ?_, reached.trans ran', rfl, rfl, rfl, rfl⟩
  intro action member
  exact (List.mem_append.mp member).elim (own action) (owns action)

/-- The next poll can begin when it is due, without any help of the source, of the owner or of callers. -/
theorem polls_next (orderly : Orderly client) (unstopped : Unstopped client)
    (live : client.task.isOver = false) (calm : ∀ started cutOff, client.task ≠ .fetching started cutOff) :
    ∃ later next, (∀ action ∈ later, action.Internal) ∧ client.run later = some next ∧
      next.fetches.size = client.fetches.size + 1 ∧ next.now = client.nextPoll := by
  cases task : client.task with
  | absent | ended => simp [task, Task.isOver] at live
  | fetching started cutOff => exact absurd task (calm started cutOff)
  | queued =>
    exact ⟨[.resume], client.beginPoll, by simp [Action.Internal],
      begins_of_due unstopped.untold (.inl task), by simp [beginPoll], by simp [beginPoll, nextPoll, task]⟩
  | sleeping wake =>
    by_cases late : wake ≤ client.now
    · refine ⟨[.resume], client.beginPoll, by simp [Action.Internal],
        begins_of_due unstopped.untold (.inr ⟨wake, late, task⟩), by simp [beginPoll], ?_⟩
      simp only [beginPoll, nextPoll, task]
      exact (Nat.max_eq_left late).symm
    · have soon : client.now ≤ wake := Nat.le_of_not_le late
      obtain ⟨later, woken, own, ran, same, untold, fetches, now⟩ :=
        reaches_wake orderly unstopped task soon
      have begins := begins_of_due (untold.trans unstopped.untold)
        (.inr ⟨wake, Nat.le_of_eq now.symm, same.trans task⟩)
      refine ⟨later ++ [.resume], woken.beginPoll, ?_, ?_, ?_, ?_⟩
      · simpa [or_imp, forall_and, Action.Internal] using own
      · rw [run_append, ran]
        exact begins
      · simp [beginPoll, fetches]
      · simp only [beginPoll, nextPoll, task, now]
        exact (Nat.max_eq_right soon).symm

/-- Time does not go back. -/
theorem now_le_step (stepped : client.step action = some next) : client.now ≤ next.now := by
  cases transition_of_step stepped with
  | elapses nanos => exact Nat.le_add_right _ _
  | _ => exact Nat.le_refl _

/-- Time does not go back along a run. -/
theorem now_le_run (ran : client.run actions = some next) : client.now ≤ next.now :=
  run_keeps (fun middle => client.now ≤ middle.now) (fun _ => True)
    (fun _ stepped held => Nat.le_trans held (now_le_step stepped)) (fun _ _ => trivial) ran (Nat.le_refl _)

/-- Fetches only ever begin along a run. -/
theorem size_fetches_le_run (ran : client.run actions = some next) :
    client.fetches.size ≤ next.fetches.size :=
  run_keeps (fun middle => client.fetches.size ≤ middle.fetches.size) (fun _ => True)
    (fun _ stepped held => Nat.le_trans held (size_fetches_le stepped)) (fun _ _ => trivial) ran (Nat.le_refl _)

/-- A wait whose end the clock can name brings no fault. -/
theorem wakeFault?_eq_none {started limit : Instant} {draw : Draw} {wait : Duration}
    (waits : jittered client.config.pollInterval client.config.jitterFraction draw = some wait)
    (begun : started ≤ limit) (named : limit + wait.nanos < Instant.limit) :
    client.wakeFault? started draw = none := by
  have inTime : started + wait.nanos < Instant.limit :=
    Nat.lt_of_le_of_lt (Nat.add_le_add_right begun _) named
  simp [wakeFault?, nextWake?, waits, Instant.after?, inTime]

/-- If the source does not panic and the sequences last, no poll panics. -/
theorem panicked_not_mem_pollEnds {bound : Nat} (orderly : Orderly client) (within : Within bound client)
    (below : ∀ action ∈ actions, action.PublishesBelow bound) (sound : ∀ action ∈ actions, action ≠ .panic)
    (ran : client.run actions = some next) (few : bound + next.fetches.size < greatestSequence) :
    .panicked ∉ client.pollEnds actions := by
  induction actions generalizing client with
  | nil => exact List.not_mem_nil
  | cons action actions ih =>
    have grown := size_fetches_le_run ran
    obtain ⟨middle, stepped, ran⟩ := run_cons ran
    obtain ⟨here, later⟩ := List.forall_mem_cons.mp sound
    obtain ⟨low, below⟩ := List.forall_mem_cons.mp below
    rw [pollEnds_cons stepped, List.mem_append, not_or]
    refine ⟨fun panicked => ?_,
      ih (orderly_step stepped orderly) (within_step orderly low stepped within) below later ran⟩
    rw [Option.mem_toList] at panicked
    obtain ⟨started, cutOff, fetching, rfl | ⟨result, draw, rfl, last⟩⟩ := panics_of_pollEnd? panicked
    · exact here rfl
    · exact counts_of_within within fetching (by omega) _ last

/-- If no poll panics and the clock can name the end of every wait there is no fault. -/
theorem faults_eq_nil (punctual : Punctual client) (calm : .panicked ∉ client.pollEnds actions)
    (ran : client.run actions = some next)
    (named : ∀ draw, ∃ wait, jittered client.config.pollInterval client.config.jitterFraction draw =
      some wait ∧ next.now + wait.nanos < Instant.limit) : client.faults actions = [] := by
  induction actions generalizing client with
  | nil => rfl
  | cons action actions ih =>
    have past := now_le_run ran
    obtain ⟨middle, stepped, ran⟩ := run_cons ran
    rw [pollEnds_cons stepped, List.mem_append, not_or, Option.mem_toList] at calm
    obtain ⟨here, later⟩ := calm
    have wakes : ∀ started cutOff draw, client.task = .fetching started cutOff →
        client.wakeFault? started draw = none := by
      intro started cutOff draw fetching
      obtain ⟨wait, waits, named⟩ := named draw
      exact wakeFault?_eq_none waits (Nat.le_trans (punctual started cutOff fetching).2.1 past) named
    have none : client.fault? action = none := by
      cases transition_of_step stepped with
      | answers result draw started cutOff fetching sequence counts =>
        simp [fault?, fetching, counts, wakes started cutOff draw fetching]
      | cutsOff draw started cutOff fetching =>
        simp [fault?, fetching, wakes started cutOff draw fetching]
      | overflows _ _ _ _ fetching last =>
        exact absurd (by simp [pollEnd?, fetching, endOfAnswer, last]) here
      | panics _ _ fetching => exact absurd (by simp [pollEnd?, fetching]) here
      | _ => rfl
    rw [faults_cons stepped, none]
    exact ih (punctual_step stepped punctual) later ran ((config_step stepped).1 ▸ named)

/-- The next poll is in flight, or it begins when it is due: it can begin then without anybody's help, and
as long as nobody stops the client time does not pass that instant before. -/
def PollsOn (client : Client) : Prop :=
  (∃ started cutOff, client.task = .fetching started cutOff) ∨
    ((∃ later next, (∀ action ∈ later, action.Internal) ∧ client.run later = some next ∧
      next.fetches.size = client.fetches.size + 1 ∧ next.now = client.nextPoll) ∧
    ∀ later next, (∀ action ∈ later, action.KeepsOn) → client.run later = some next →
      client.fetches.size < next.fetches.size ∨ next.now ≤ client.nextPoll)

/-- A task that is not over polls on. -/
theorem pollsOn_of_live (orderly : Orderly client) (unstopped : Unstopped client)
    (live : client.task.isOver = false) : PollsOn client := by
  by_cases fetching : ∃ started cutOff, client.task = .fetching started cutOff
  · exact .inl fetching
  · have calm : ∀ started cutOff, client.task ≠ .fetching started cutOff :=
      fun started cutOff same => fetching ⟨started, cutOff, same⟩
    refine .inr ⟨polls_next orderly unstopped live calm, fun later next keepsOn ran => ?_⟩
    refine pollsBy_run orderly unstopped keepsOn ran (.inl ⟨rfl, ?_, ?_⟩)
    · unfold nextPoll
      split
      · exact Nat.le_max_left _ _
      · exact Nat.le_refl _
    · cases task : client.task with
      | absent | ended => simp [task, Task.isOver] at live
      | fetching started cutOff => exact absurd task (calm started cutOff)
      | queued => exact .inl rfl
      | sleeping wake => exact .inr ⟨wake, rfl, by simp only [nextPoll, task]; exact Nat.le_max_right _ _⟩

/-- A client that nobody has stopped and that is seen running polls on exactly if there has been no fault.
There is none if the source does not panic, the sequences that others publish and the number of fetches
together stay below the last sequence, and the clock can name the end of every wait. After a fault no fetch
ever begins, and readers go on seeing the client running and as healthy as it was. -/
theorem polls_on_iff_faultless (config : Config) (timerStep : Nat) (actions : List Action)
    (client : Client) (keepsOn : ∀ action ∈ actions, action.KeepsOn)
    (ran : (initial config timerStep).run actions = some client) (running : client.isRunning = true) :
    (client.task.isOver = false ↔ (initial config timerStep).faults actions = []) ∧
    (client.task.isOver = false → PollsOn client) ∧
    (∀ bound, (∀ action ∈ actions, action.PublishesBelow bound) →
      bound + client.fetches.size < greatestSequence → (∀ action ∈ actions, action ≠ .panic) →
      (∀ draw, ∃ wait, jittered config.pollInterval config.jitterFraction draw = some wait ∧
        client.now + wait.nanos < Instant.limit) → client.task.isOver = false) ∧
    (client.task.isOver = true → ∀ later next, (∀ action ∈ later, action.KeepsOn) →
      client.run later = some next → next.task.isOver = true ∧ next.isRunning = true ∧
        next.fetches = client.fetches ∧ next.tracker = client.tracker ∧
        next.stats.health = client.stats.health) := by
  have fresh := orderly_initial config timerStep
  have orderly := orderly_run ran
  have unstopped := unstopped_run fresh (unstopped_initial config timerStep) keepsOn ran
  have present : client.task ≠ .absent := by
    have seen : Seen client := seen_run fresh (seen_initial config timerStep) ran
    have started : client.guarded = .running := by
      rw [← seen.early unstopped.guarded]
      simpa [isRunning] using running
    exact (orderly.running started).1
  have exactly : client.task.isOver = false ↔ (initial config timerStep).faults actions = [] := by
    rcases faults_run fresh (unstopped_initial config timerStep) keepsOn ran (by simp [initial]) with
      ⟨none, goesOn⟩ | ⟨fault, one, past⟩
    · rw [none]
      cases task : client.task with
      | absent => exact absurd task present
      | ended how => exact absurd task (goesOn how)
      | queued | fetching | sleeping => simp [Task.isOver]
    · simp [one, past, Task.isOver]
  refine ⟨exactly, pollsOn_of_live orderly unstopped, fun bound below few sound named => ?_,
    fun past later next keepsOn' ran' => ?_⟩
  · have calm := panicked_not_mem_pollEnds fresh (within_initial bound config timerStep) below sound ran few
    exact exactly.mpr (faults_eq_nil (punctual_initial config timerStep) calm ran named)
  · obtain ⟨how, ended⟩ := exists_ended present past
    obtain ⟨⟨task, status, fetches, tracker⟩, _⟩ := ended_run orderly unstopped keepsOn' ran' ended
    refine ⟨task ▸ past, ?_, fetches, tracker, ?_⟩
    · simpa [isRunning, status] using running
    · simp [stats, Stats.health, Tracker.stats, tracker]

/-- A poll that fails, and a second start that waits for the lock while the task sleeps. -/
def failedPoll : List Action :=
  [.call 0 .start, .takeLock, .resume, .elapse 1000000000, .answer (.error .unauthorized) .half,
    .call 1 .start]

/-- After the failed poll the client is seen running, and it polls on half a minute after the first poll. -/
theorem polls_on_iff_faultless_failedPoll :
    ∃ client, (initial .default 1000000).run failedPoll = some client ∧
      (∀ action ∈ failedPoll, action.KeepsOn) ∧ client.isRunning = true ∧
      client.nextPoll = 30000000000 ∧ (initial .default 1000000).faults failedPoll = [] ∧
      PollsOn client := by
  have keepsOn : ∀ action ∈ failedPoll, action.KeepsOn := by simp [failedPoll, Action.KeepsOn]
  have below : ∀ action ∈ failedPoll, action.PublishesBelow 0 := by simp [failedPoll, Action.PublishesBelow]
  have sound : ∀ action ∈ failedPoll, action ≠ .panic := by simp [failedPoll]
  have ran : (initial .default 1000000).run failedPoll = some _ := rfl
  obtain ⟨exactly, goesOn, faultless, _⟩ :=
    polls_on_iff_faultless .default 1000000 failedPoll _ keepsOn ran rfl
  have live := faultless 0 below (by decide) sound fun _ => ⟨Config.default.pollInterval, rfl, by decide⟩
  exact ⟨_, ran, keepsOn, rfl, rfl, exactly.mp live, goesOn live⟩

/-- The first poll of a source that panics. -/
def panickedPoll : List Action := [.call 0 .start, .takeLock, .resume, .panic]

/-- After the panic no fetch ever begins, and as long as nobody stops the client readers see it running
and healthy. -/
theorem panicked_seen_running :
    Config.default.validate = .ok () ∧ (∀ action ∈ panickedPoll, action.KeepsOn) ∧
    ∃ client, (initial .default 1000000).run panickedPoll = some client ∧
      client.task.isOver = true ∧
      ∀ later next, (∀ action ∈ later, action.KeepsOn) → client.run later = some next →
        next.isRunning = true ∧ next.stats.health = .healthy ∧ next.fetches = client.fetches := by
  have keepsOn : ∀ action ∈ panickedPoll, action.KeepsOn := by simp [panickedPoll, Action.KeepsOn]
  have fresh := orderly_initial .default 1000000
  have ran : (initial .default 1000000).run panickedPoll = some _ := rfl
  have unstopped := unstopped_run fresh (unstopped_initial .default 1000000) keepsOn ran
  refine ⟨rfl, keepsOn, _, ran, rfl, fun later next keepsOn' ran' => ?_⟩
  obtain ⟨⟨_, status, fetches, tracker⟩, _⟩ := ended_run (orderly_run ran) unstopped keepsOn' ran' rfl
  refine ⟨?_, ?_, fetches⟩
  · rw [isRunning, status]
    rfl
  · simp only [stats, Tracker.stats, Stats.health, tracker]
    rfl

end Client

end LiveFlags
