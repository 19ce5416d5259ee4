import LiveFlags.Proofs.Client.Accounting
import LiveFlags.Proofs.Client.Faults
import LiveFlags.Proofs.Client.Trail
import LiveFlags.Proofs.Client.Waits

/-!
# The schedule of polls

A poll is due once the wait since the one before began is over and that one has ended, and it begins
exactly then: a task sleeps from the end of a poll to the instant at which the next one is due, and it
goes on at once if this instant has passed already. `Scheduled` states this of the fetches that have begun
and the ends of the polls that a run has seen (`scheduled_run`), for timers of any kind. With timers that
run out when they are due the instants are exact (`OnTime.follows`). Without a spread a poll always ends
before its wait is over, so the instants are evenly spaced (`OnTime.began_of_unspread`), however long
the fetches take.
-/
namespace LiveFlags

/-- The end of a poll that has not panicked. -/
structure Finish where
  /-- When the outcome was applied. -/
  instant : Instant
  /-- The draw for the wait after the poll. -/
  draw : Draw
  deriving DecidableEq

/-- A poll that began at an instant ends, and the next one is due. -/
structure Config.Follows (config : Config) (began : Nat) (finish : Finish) (due : Nat) : Prop where
  /-- The poll ends after it has begun. -/
  ended : began ≤ finish.instant
  /-- It ends within the time for a fetch. -/
  inTime : finish.instant ≤ began + config.fetchTimeout.nanos
  /-- The next poll is due once the wait since this one began is over and this one has ended. -/
  due : ∃ wait, jittered config.pollInterval config.jitterFraction finish.draw = some wait ∧
    due = max (began + wait.nanos) finish.instant

namespace Client

/-- The end that an action makes of the poll in flight, unless it panics. -/
def finish? (client : Client) (action : Action) : Option Finish :=
  match action, client.task with
  | .answer result draw, .fetching _ _ =>
    if client.sequenceAfter? (client.outcome result) = none then none else some ⟨client.now, draw⟩
  | .cutOff draw, .fetching _ _ => some ⟨client.now, draw⟩
  | _, _ => none

/-- When the poll after one that began at an instant is due: once the wait since then is over and the
outcome has been applied. -/
def dueAfter? (client : Client) (began : Instant) (finish : Finish) : Option Instant :=
  (client.nextWake? began finish.draw).map fun wake => max (client.roundUp wake) finish.instant

/-- The last poll is in flight and not overdue. -/
structure InFlight (finishes : List Finish) (client : Client) (last : FetchCall) : Prop where
  /-- It is cut off when the time for a fetch is over. -/
  task : client.task = .fetching last.began (last.began + client.config.fetchTimeout.nanos)
  /-- It is the only one that has not ended. -/
  size : client.fetches.size = finishes.length + 1
  /-- The time for a fetch is not over. -/
  soon : client.now ≤ last.began + client.config.fetchTimeout.nanos

/-- Every poll has ended, and the next one is not overdue and can begin as soon as it is due, without any
help of the source, of the owner or of callers. -/
def NextDue (finishes : List Finish) (client : Client) (last : FetchCall) : Prop :=
  client.fetches.size = finishes.length ∧
  ∃ finish due, finishes.getLast? = some finish ∧ client.config.Follows last.began finish due ∧
    client.now ≤ due ∧ ∃ later next, (∀ action ∈ later, action.Internal) ∧
      client.run later = some next ∧ next.fetches.size = client.fetches.size + 1 ∧ next.now = due

/-- Polls begin when they are due, end by their deadlines and do not overlap. -/
structure Scheduled (finishes : List Finish) (client : Client) : Prop where
  /-- Every poll but one that is open has ended. -/
  paired : client.fetches.size = finishes.length + client.task.openFetches
  /-- Every poll but the first has begun when it was due after the one before. -/
  spaced : ∀ (index : Nat) (call next : FetchCall) (finish : Finish), client.fetches[index]? = some call →
    client.fetches[index + 1]? = some next → finishes[index]? = some finish →
    client.dueAfter? call.began finish = some next.began
  /-- Every poll that has ended has ended after it began and by its deadline. -/
  inTime : ∀ (index : Nat) (call : FetchCall) (finish : Finish), client.fetches[index]? = some call →
    finishes[index]? = some finish →
    call.began ≤ finish.instant ∧ finish.instant ≤ client.deadline call.began
  /-- The poll in flight is the last one. -/
  flight : ∀ started cutOff, client.task = .fetching started cutOff →
    ∃ call : FetchCall, client.fetches.back? = some call ∧ call.began = started
  /-- A task that sleeps does so from the end of the last poll until the next one is due. -/
  rests : ∀ wake, client.task = .sleeping wake → ∃ (call : FetchCall) (finish : Finish),
    client.fetches.back? = some call ∧ finishes.getLast? = some finish ∧
    client.dueAfter? call.began finish = some (max wake finish.instant) ∧
    finish.instant ≤ client.now ∧ client.now ≤ max wake finish.instant
  /-- A task that has not run has begun no poll. -/
  fresh : client.task = .queued → client.fetches = #[]

variable {client next : Client} {action : Action} {actions : List Action} {finishes : List Finish}

/-- A client that has not done anything has polled on schedule. -/
theorem scheduled_initial (config : Config) (timerStep : Nat) : Scheduled [] (initial config timerStep) where
  paired := rfl
  spaced _ _ _ _ found := by simp [initial] at found
  inTime _ _ _ found := by simp [initial] at found
  flight _ _ fetching := by cases fetching
  rests _ sleeping := by cases sleeping
  fresh queued := by cases queued

/-- A task that neither waits for a fetch nor sleeps, with as many open fetches, leaves the schedule as it
is. -/
theorem Scheduled.of_open (scheduled : Scheduled finishes client) (task : Task)
    (same : task.openFetches = client.task.openFetches)
    (awake : ∀ started cutOff, task ≠ .fetching started cutOff) (up : ∀ wake, task ≠ .sleeping wake)
    (fresh : task = .queued → client.fetches = #[]) (config : next.config = client.config)
    (timerStep : next.timerStep = client.timerStep) (fetches : next.fetches = client.fetches)
    (task' : next.task = task) : Scheduled finishes next where
  paired := by rw [task', fetches, same]; exact scheduled.paired
  spaced := by
    unfold dueAfter? nextWake? roundUp
    rw [config, timerStep, fetches]
    exact scheduled.spaced
  inTime := by
    rw [deadline_eq config timerStep, fetches]
    exact scheduled.inTime
  flight started cutOff fetching := absurd (task'.symm.trans fetching) (awake started cutOff)
  rests wake sleeping := absurd (task'.symm.trans sleeping) (up wake)
  fresh queued := by rw [fetches]; exact fresh (task'.symm.trans queued)

/-- A poll begins exactly when it is due. -/
theorem scheduled_begin (scheduled : Scheduled finishes client)
    (due : client.task = .queued ∨ ∃ wake ≤ client.now, client.task = .sleeping wake) :
    Scheduled finishes client.beginPoll := by
  have closed := (rested_of_due due).2.2
  have size : client.fetches.size = finishes.length := by
    rw [scheduled.paired, closed, Nat.add_zero]
  refine ⟨?_, ?_, ?_, ?_, by simp [beginPoll], by simp [beginPoll]⟩
  · simp [beginPoll, Task.openFetches, size]
  · intro index call next finish found following finished
    simp only [beginPoll, Array.getElem?_push] at found following
    have inside := (List.getElem?_eq_some_iff.mp finished).1
    rw [if_neg (by omega)] at found
    split at following
    · -- the poll that begins now: the task wakes at the instant at which it is due
      rename_i last
      obtain rfl := Option.some.inj following
      rcases due with queued | ⟨wake, late, sleeping⟩
      · rw [scheduled.fresh queued] at size
        simp only [List.size_toArray, List.length_nil] at size
        omega
      · obtain ⟨call', finish', back, final, due, ended, soon⟩ := scheduled.rests wake sleeping
        have same : call' = call := by
          rw [Array.back?, show client.fetches.size - 1 = index by omega, found] at back
          exact (Option.some.inj back).symm
        have same' : finish' = finish := by
          rw [List.getLast?_eq_getElem?, show finishes.length - 1 = index by omega, finished] at final
          exact (Option.some.inj final).symm
        subst same same'
        have now : max wake finish'.instant = client.now :=
          Nat.le_antisymm (Nat.max_le.mpr ⟨late, ended⟩) soon
        rw [now] at due
        exact due
    · exact scheduled.spaced index call next finish found following finished
  · intro index call finish found finished
    have inside := (List.getElem?_eq_some_iff.mp finished).1
    simp only [beginPoll, Array.getElem?_push] at found
    rw [if_neg (by omega)] at found
    exact scheduled.inTime index call finish found finished
  · intro started cutOff fetching
    obtain ⟨rfl, rfl⟩ := Task.fetching.inj fetching
    exact ⟨_, Array.back?_push, rfl⟩

/-- A poll that comes to an outcome ends in time, and the task sleeps until the next one is due. -/
theorem scheduled_finish {started cutOff : Instant} (scheduled : Scheduled finishes client)
    (punctual : Punctual client) (fetching : client.task = .fetching started cutOff)
    (outcome : PollOutcome) (draw : Draw) (following : UInt64) :
    Scheduled (finishes ++ [⟨client.now, draw⟩])
      { client.afterPoll outcome started draw with nextSequence := following } := by
  obtain ⟨call, back, rfl⟩ := scheduled.flight started cutOff fetching
  have size : client.fetches.size = finishes.length + 1 := by
    rw [scheduled.paired, fetching]
    rfl
  have last : client.fetches[finishes.length]? = some call := by
    rw [Array.back?, size, Nat.add_sub_cancel] at back
    exact back
  have closed := client.openFetches_taskAfter call.began draw
  refine ⟨?_, ?_, ?_, ?_, ?_, ?_⟩
  · simp only [List.length_append, List.length_singleton, size]
    rw [closed]
  · intro index call' next finish found following finished
    have inside := (Array.getElem?_eq_some_iff.mp following).1
    rw [List.getElem?_append_left (by simp only at inside; omega)] at finished
    exact scheduled.spaced index call' next finish found following finished
  · intro index call' finish found finished
    rw [List.getElem?_append] at finished
    split at finished
    · exact scheduled.inTime index call' finish found finished
    · obtain ⟨rfl, rfl⟩ : index = finishes.length ∧ ⟨client.now, draw⟩ = finish := by
        rw [List.getElem?_singleton] at finished
        split at finished
        · exact ⟨by omega, Option.some.inj finished⟩
        · contradiction
      obtain rfl := Option.some.inj (last.symm.trans found)
      obtain ⟨cut, begun, soon⟩ := punctual call.began cutOff fetching
      exact ⟨begun, cut ▸ soon⟩
  · intro began cutOff' fetching'
    exact absurd fetching' (client.taskAfter_ne_fetching call.began draw began cutOff')
  · intro wake sleeping
    refine ⟨call, ⟨client.now, draw⟩, back, List.getLast?_concat, ?_, Nat.le_refl _,
      Nat.le_max_right wake client.now⟩
    have sleeping : client.taskAfter call.began draw = .sleeping wake := sleeping
    unfold taskAfter at sleeping
    change (client.nextWake? call.began draw).map _ = _
    cases wakes : client.nextWake? call.began draw with
    | none => simp [wakes] at sleeping
    | some instant =>
      rw [wakes] at sleeping
      dsimp only at sleeping
      split at sleeping
      · contradiction
      · obtain rfl := Task.sleeping.inj sleeping
        rfl
  · intro queued
    exact absurd queued (client.taskAfter_ne_queued call.began draw)

/-- A step that does not end a poll keeps the ends there are. -/
theorem Scheduled.of_unfinished (unfinished : client.finish? action = none)
    (scheduled : Scheduled finishes next) : Scheduled (finishes ++ (client.finish? action).toList) next := by
  rw [unfinished, Option.toList_none, List.append_nil]
  exact scheduled

/-- Every step keeps the schedule. -/
theorem scheduled_step (orderly : Orderly client) (punctual : Punctual client)
    (stepped : client.step action = some next) (scheduled : Scheduled finishes client) :
    Scheduled (finishes ++ (client.finish? action).toList) next := by
  have unchanged := scheduled
  obtain ⟨paired, spaced, inTime, flight, rests, fresh⟩ := scheduled
  cases transition_of_step stepped with
  | starts caller rest free head idle =>
    obtain ⟨absent, _, _, nothing⟩ := orderly.idle idle
    exact .of_unfinished rfl <| unchanged.of_open .queued (by simp [absent, Task.openFetches]) (by simp)
      (by simp) (fun _ => nothing) rfl rfl rfl rfl
  | exits woken told =>
    have closed := (rested_of_woken woken).2.2
    exact .of_unfinished rfl <| unchanged.of_open (.ended .finished) closed.symm (by simp) (by simp)
      (by simp) rfl rfl rfl rfl
  | begins due untold => exact .of_unfinished rfl (scheduled_begin unchanged due)
  | answers result draw started cutOff fetching following counts =>
    have finished := scheduled_finish unchanged punctual fetching (client.outcome result) draw following
    simpa [finish?, fetching, counts] using finished
  | cutsOff draw started cutOff fetching late =>
    have finished :=
      scheduled_finish unchanged punctual fetching (.failure .timeout) draw client.nextSequence
    simpa [finish?, fetching] using finished
  | overflows result draw started cutOff fetching last =>
    exact .of_unfinished (by simp [finish?, fetching, last]) <| unchanged.of_open (.ended (.panicked true))
      (by simp [fetching, Task.openFetches]) (by simp) (by simp) (by simp) rfl rfl rfl rfl
  | panics started cutOff fetching =>
    exact .of_unfinished rfl <| unchanged.of_open (.ended (.panicked true))
      (by simp [fetching, Task.openFetches]) (by simp) (by simp) (by simp) rfl rfl rfl rfl
  | dropsRunning still running =>
    exact .of_unfinished rfl <| unchanged.of_open _ (openFetches_abortTask client.task)
      (abortTask_ne_fetching client.task) (by cases client.task <;> simp [abortTask])
      (by cases client.task <;> simp [abortTask]) rfl rfl rfl rfl
  | elapses nanos soon =>
    refine .of_unfinished rfl ⟨paired, spaced, inTime, flight, fun wake sleeping => ?_, fresh⟩
    obtain ⟨call, finish, back, final, due, ended, early⟩ := rests wake sleeping
    refine ⟨call, finish, back, final, due, Nat.le_trans ended (Nat.le_add_right _ _), ?_⟩
    have sleeping : client.task = .sleeping wake := sleeping
    cases told : client.cancelled with
    | true =>
      have still : client.now + nanos ≤ client.now :=
        le_of_taskDue soon (by simp [taskDue?, sleeping, told])
      exact Nat.le_trans still early
    | false =>
      have woken : client.now + nanos ≤ wake := le_of_taskDue soon (by simp [taskDue?, sleeping, told])
      exact Nat.le_trans woken (Nat.le_max_left _ _)
  | calls | refuses | startFails | startsAgain | cancels | stopsIdle | stopsAgain | drains | leavesDrain
  | leavesQueue | publishes | awaits | notices | givesUp | dropsOther =>
    exact .of_unfinished rfl ⟨paired, spaced, inTime, flight, rests, fresh⟩

/-- Every run polls on schedule. -/
theorem scheduled_run {config : Config} {timerStep : Nat}
    (ran : (initial config timerStep).run actions = some client) :
    Scheduled ((initial config timerStep).trail finish? actions) client := by
  have kept := trail_keeps finish?
    (fun finishes middle => Orderly middle ∧ Punctual middle ∧ Scheduled finishes middle) (fun _ => True)
    (fun _ stepped held => ⟨orderly_step stepped held.1, punctual_step stepped held.2.1,
      scheduled_step held.1 held.2.1 stepped held.2.2⟩)
    (fun _ _ => trivial)
    ⟨orderly_initial config timerStep, punctual_initial config timerStep,
      scheduled_initial config timerStep⟩ ran
  exact kept.2.2

/-- No fetch has begun later than now. -/
theorem begun_step (stepped : client.step action = some next)
    (begun : ∀ call ∈ client.fetches, call.began ≤ client.now) :
    ∀ call ∈ next.fetches, call.began ≤ next.now := by
  cases transition_of_step stepped with
  | begins =>
    intro call member
    rcases Array.mem_push.mp member with before | rfl
    · exact begun call before
    · exact Nat.le_refl _
  | elapses nanos => exact fun call member => Nat.le_trans (begun call member) (Nat.le_add_right _ _)
  | _ => exact begun

/-- No fetch of a client that can be reached has begun later than now. -/
theorem begun_run {config : Config} {timerStep : Nat}
    (ran : (initial config timerStep).run actions = some client) :
    ∀ call ∈ client.fetches, call.began ≤ client.now :=
  run_keeps (fun middle => ∀ call ∈ middle.fetches, call.began ≤ middle.now) (fun _ => True)
    (fun _ => begun_step) (fun _ _ => trivial) ran (by simp [initial])

/-- Timers that can run out at every nanosecond run out when they are due. -/
theorem roundUp_of_fine (fine : client.timerStep ≤ 1) (instant : Nat) :
    client.roundUp instant = instant := by
  obtain ⟨least, most⟩ := client.roundUp_bounds instant
  rw [Nat.max_eq_right fine] at most
  exact Nat.le_antisymm (Nat.le_of_lt_succ most) least

/-- With exact timers a fetch may take exactly as long as its time. -/
theorem deadline_of_fine (fine : client.timerStep ≤ 1) {began : Nat}
    (named : began + client.config.fetchTimeout.nanos < Instant.limit) :
    client.deadline began = began + client.config.fetchTimeout.nanos := by
  unfold deadline
  rw [roundUp_of_fine fine]
  simp [Instant.timer, Instant.after?, named]

/-- With exact timers a poll is due once its wait is over and the poll before has ended. -/
theorem exists_wait_of_dueAfter? (fine : client.timerStep ≤ 1) {began due : Nat} {finish : Finish}
    (set : client.dueAfter? began finish = some due) :
    ∃ wait, jittered client.config.pollInterval client.config.jitterFraction finish.draw = some wait ∧
      due = max (began + wait.nanos) finish.instant := by
  obtain ⟨wake, wakes, rfl⟩ := Option.map_eq_some_iff.mp set
  obtain ⟨wait, waits, named⟩ := Option.bind_eq_some_iff.mp wakes
  unfold Instant.after? at named
  split at named
  · obtain rfl := Option.some.inj named
    exact ⟨wait, waits, by rw [roundUp_of_fine fine]⟩
  · contradiction

/-- A client has polled on schedule with timers that run out when they are due, and the clock can name every
deadline. -/
structure OnTime (finishes : List Finish) (client : Client) : Prop extends Scheduled finishes client where
  /-- Timers can run out at every nanosecond. -/
  fine : client.timerStep ≤ 1
  /-- The clock can name the deadlines that the present sets. -/
  named : client.config.NamesDeadlines client.now
  /-- No fetch has begun later than now. -/
  begun : ∀ call ∈ client.fetches, call.began ≤ client.now

/-- A fetch of the past may take exactly as long as its time. -/
theorem OnTime.deadline (onTime : OnTime finishes client) {index : Nat} {call : FetchCall}
    (found : client.fetches[index]? = some call) :
    client.deadline call.began = call.began + client.config.fetchTimeout.nanos := by
  have past : call.began ≤ client.now := onTime.begun call (Array.mem_of_getElem? found)
  exact deadline_of_fine onTime.fine (Nat.lt_of_le_of_lt (Nat.add_le_add_right past _) onTime.named.1)

/-- A poll that has ended has ended in time, and is followed by the next one when that is due. -/
theorem OnTime.follows (onTime : OnTime finishes client) {index due : Nat} {call : FetchCall}
    {finish : Finish} (found : client.fetches[index]? = some call) (ended : finishes[index]? = some finish)
    (set : client.dueAfter? call.began finish = some due) :
    client.config.Follows call.began finish due := by
  obtain ⟨after, inTime⟩ := onTime.inTime index call finish found ended
  rw [onTime.deadline found] at inTime
  exact ⟨after, inTime, exists_wait_of_dueAfter? onTime.fine set⟩

/-- A poll that has a successor has ended, and is followed by the next one when that is due. -/
theorem OnTime.exists_finish (onTime : OnTime finishes client) {index : Nat} {call next : FetchCall}
    (found : client.fetches[index]? = some call) (following : client.fetches[index + 1]? = some next) :
    ∃ finish, finishes[index]? = some finish ∧ client.config.Follows call.began finish next.began := by
  have inside := (Array.getElem?_eq_some_iff.mp following).1
  have paired := onTime.paired
  have few := client.task.openFetches_le_one
  have ended : finishes[index]? = some finishes[index] := List.getElem?_eq_getElem (by omega)
  exact ⟨_, ended, onTime.follows found ended (onTime.spaced index call next _ found following ended)⟩

/-- Without a spread a poll is due exactly one interval after the one before. -/
theorem due_of_unspread {config : Config} {began due : Nat} {finish : Finish}
    (follows : config.Follows began finish due) (sound : config.validate = .ok ())
    (unspread : config.jitterFraction ≤ 0.0) : due = began + config.pollInterval.nanos := by
  obtain ⟨_, _, shorter, _⟩ := Config.validate_eq_ok_iff.mp sound
  obtain ⟨wait, waits, rfl⟩ := follows.due
  rw [jittered_of_unspread unspread] at waits
  obtain rfl := Option.some.inj waits
  exact Nat.max_eq_left (Nat.le_trans follows.inTime (Nat.add_le_add_left (Nat.le_of_lt shorter) _))

/-- Without a spread the polls begin one interval after the other. -/
theorem OnTime.began_of_unspread (onTime : OnTime finishes client)
    (sound : client.config.validate = .ok ()) (unspread : client.config.jitterFraction ≤ 0.0)
    {first : FetchCall} (start : client.fetches[0]? = some first) (index : Nat) (call : FetchCall)
    (found : client.fetches[index]? = some call) :
    call.began = first.began + index * client.config.pollInterval.nanos := by
  induction index generalizing call with
  | zero =>
    obtain rfl := Option.some.inj (start.symm.trans found)
    rw [Nat.zero_mul]
    rfl
  | succ index ih =>
    have inside := (Array.getElem?_eq_some_iff.mp found).1
    have before : client.fetches[index]? = some client.fetches[index] :=
      Array.getElem?_eq_getElem (by omega)
    obtain ⟨finish, _, follows⟩ := onTime.exists_finish before found
    rw [due_of_unspread follows sound unspread, ih _ before, Nat.add_assoc, Nat.succ_mul]

/-- The last poll of a client that nobody has stopped and that has had no fault is in flight, or it has
ended and the next one is not overdue and can begin as soon as it is due. -/
theorem OnTime.goesOn (onTime : OnTime finishes client) (orderly : Orderly client)
    (punctual : Punctual client) (unstopped : Unstopped client) (live : ∀ how, client.task ≠ .ended how)
    {last : FetchCall} (back : client.fetches.back? = some last) :
    client.InFlight finishes last ∨ client.NextDue finishes last := by
  have found : client.fetches[client.fetches.size - 1]? = some last := back
  have some_fetch : client.fetches ≠ #[] := by
    rintro none
    simp [none] at back
  cases task : client.task with
  | absent =>
    -- a client without a task has not been started, so it has not polled
    have untouched : client.guarded = .idle := by
      cases guarded : client.guarded with
      | idle => rfl
      | running => exact absurd task (orderly.running guarded).1
      | stopped => exact absurd guarded unstopped.guarded
    exact absurd (orderly.idle untouched).2.2.2 some_fetch
  | queued => exact absurd (onTime.fresh task) some_fetch
  | ended how => exact absurd task (live how)
  | fetching started cutOff =>
    left
    obtain ⟨call, back', rfl⟩ := onTime.flight started cutOff task
    obtain rfl := Option.some.inj (back.symm.trans back')
    obtain ⟨rfl, _, soon⟩ := punctual _ cutOff task
    rw [onTime.deadline found] at soon task
    refine ⟨task, ?_, soon⟩
    rw [onTime.paired, task]
    rfl
  | sleeping wake =>
    right
    obtain ⟨call, finish, back', final, set, ended, soon⟩ := onTime.rests wake task
    obtain rfl := Option.some.inj (back.symm.trans back')
    have size : client.fetches.size = finishes.length := by
      rw [onTime.paired, task]
      rfl
    obtain ⟨later, next, own, ran, begins, now⟩ :=
      polls_next orderly unstopped (by rw [task]; rfl) (by simp [task])
    have due : client.nextPoll = max wake finish.instant := by
      unfold nextPoll
      rw [task]
      exact Nat.le_antisymm (Nat.max_le.mpr ⟨soon, Nat.le_max_left _ _⟩)
        (Nat.max_le.mpr ⟨Nat.le_max_right _ _, Nat.le_trans ended (Nat.le_max_left _ _)⟩)
    refine ⟨size, finish, max wake finish.instant, final, ?_, soon, later, next, own, ran, begins,
      now.trans due⟩
    rw [List.getLast?_eq_getElem?, ← size] at final
    exact onTime.follows found final set

/-- An instant between two others of an evenly spaced row tells how many intervals lie before it. -/
theorem div_of_between {start last now interval index : Nat} (grid : last = start + index * interval)
    (past : last ≤ now) (soon : now ≤ last + interval) (between : (now - start) % interval ≠ 0) :
    (now - start) / interval = index := by
  have split : now - start = now - last + index * interval := by omega
  rw [split, Nat.add_mul_mod_self_right] at between
  have short : now - last < interval := by
    rcases Nat.lt_or_eq_of_le (Nat.sub_le_iff_le_add'.mpr soon) with less | same
    · exact less
    · exact absurd (by rw [same, Nat.mod_self]) between
  rw [split, Nat.add_mul_div_right _ _ (Nat.zero_lt_of_lt short), Nat.div_eq_of_lt short, Nat.zero_add]

/-- Without a spread, a client that nobody has stopped and that has had no fault has begun one poll more
than intervals have passed since the first one. -/
theorem OnTime.size_of_unspread (onTime : OnTime finishes client)
    (sound : client.config.validate = .ok ()) (unspread : client.config.jitterFraction ≤ 0.0)
    {first last : FetchCall} (start : client.fetches[0]? = some first)
    (back : client.fetches.back? = some last)
    (goesOn : client.InFlight finishes last ∨ client.NextDue finishes last)
    (between : (client.now - first.began) % client.config.pollInterval.nanos ≠ 0) :
    client.fetches.size = (client.now - first.began) / client.config.pollInterval.nanos + 1 := by
  obtain ⟨_, _, shorter, _⟩ := Config.validate_eq_ok_iff.mp sound
  have found : client.fetches[client.fetches.size - 1]? = some last := back
  have inside := (Array.getElem?_eq_some_iff.mp start).1
  have past := onTime.begun last (Array.mem_of_getElem? found)
  have grid := onTime.began_of_unspread sound unspread start _ last found
  have soon : client.now ≤ last.began + client.config.pollInterval.nanos := by
    rcases goesOn with ⟨_, _, soon⟩ | ⟨_, finish, due, _, follows, soon, _⟩
    · exact Nat.le_trans soon (Nat.add_le_add_left (Nat.le_of_lt shorter) _)
    · rwa [due_of_unspread follows sound unspread] at soon
  rw [div_of_between grid past soon between, Nat.sub_add_cancel inside]

/-- With a sound configuration and exact timers, as long as the clock can name every deadline: each poll but
the last one has ended within the time for a fetch, and the next one has begun when the wait since it
began was over and it had ended, whatever came of it; so polls do not overlap. As long as nobody stops
the client and no poll panics, the last poll is in flight or the next one follows when it is
due. Without a spread the polls begin exactly one interval after the other, and between two of those
instants one more has been counted than intervals have passed. -/
theorem polls_on_schedule (config : Config) (timerStep : Nat) (actions : List Action) (client : Client)
    (sound : config.validate = .ok ()) (fine : timerStep ≤ 1)
    (ran : (initial config timerStep).run actions = some client)
    (named : config.NamesDeadlines client.now) :
    let finishes := (initial config timerStep).trail finish? actions
    (∀ index call next, client.fetches[index]? = some call → client.fetches[index + 1]? = some next →
      ∃ finish, finishes[index]? = some finish ∧ config.Follows call.began finish next.began) ∧
    (config.jitterFraction ≤ 0.0 → ∀ first index call, client.fetches[0]? = some first →
      client.fetches[index]? = some call → call.began = first.began + index * config.pollInterval.nanos) ∧
    ((∀ action ∈ actions, action.KeepsOn) → .panicked ∉ (initial config timerStep).pollEnds actions →
      ∀ first last, client.fetches[0]? = some first → client.fetches.back? = some last →
      (client.InFlight finishes last ∨ client.NextDue finishes last) ∧
      (config.jitterFraction ≤ 0.0 → (client.now - first.began) % config.pollInterval.nanos ≠ 0 →
        client.fetches.size = (client.now - first.began) / config.pollInterval.nanos + 1 ∧
        client.stats.pollCount =
          UInt64.ofNat ((client.now - first.began) / config.pollInterval.nanos + 1))) := by
  intro finishes
  have scheduled : Scheduled finishes client := scheduled_run ran
  have accounted := accounted_run (orderly_initial config timerStep) ran (accounted_initial config timerStep)
  have orderly := orderly_run ran
  have punctual := punctual_run ran
  have fresh := orderly_initial config timerStep
  have unstopped := unstopped_initial config timerStep
  have faults := fun keepsOn => faults_run fresh unstopped keepsOn ran (by simp [initial])
  have faultless := fun calm => faults_eq_nil (punctual_initial config timerStep) calm ran named.2
  have begun := begun_run ran
  obtain ⟨rfl, rfl⟩ := config_run ran
  have onTime : OnTime finishes client := ⟨scheduled, fine, named, begun⟩
  refine ⟨fun index call next found following => onTime.exists_finish found following,
    fun unspread first index call start found =>
      onTime.began_of_unspread sound unspread start index call found,
    fun keepsOn calm first last start back => ?_⟩
  have live : ∀ how, client.task ≠ .ended how := by
    rcases faults keepsOn with ⟨_, live⟩ | ⟨fault, came, _⟩
    · exact live
    · rw [faultless calm] at came
      contradiction
  have goesOn := onTime.goesOn orderly punctual (unstopped_run fresh unstopped keepsOn ran) live back
  refine ⟨goesOn, fun unspread between => ?_⟩
  have size := onTime.size_of_unspread sound unspread start back goesOn between
  exact ⟨size, accounted.1.trans (congrArg UInt64.ofNat size)⟩

/-- A configuration whose waits are spread from one millisecond to twice the interval. -/
def spread : Config := ⟨.ofMillis 10, 1.0, .ofMillis 9⟩

/-- The first fetch hangs until it is cut off after nine milliseconds, when its wait of one millisecond has
long been over; the second one fails after a millisecond and is followed by a wait of ten. -/
def uneven : List Action :=
  [.call 0 .start, .takeLock, .resume, .elapse 9000000, .cutOff .least, .resume,
    .elapse 1000000, .answer (.error .unauthorized) .half, .elapse 9000000, .resume]

/-- Of the three polls the second begins when the first has ended, and the third ten milliseconds after the
second has begun. -/
theorem polls_on_schedule_uneven :
    ∃ client last, (initial spread 1).run uneven = some client ∧ spread.validate = .ok () ∧
      spread.NamesDeadlines client.now ∧ (∀ action ∈ uneven, action.KeepsOn) ∧
      .panicked ∉ (initial spread 1).pollEnds uneven ∧
      client.fetches.toList.map FetchCall.began = [0, 9000000, 19000000] ∧
      spread.Follows 0 ⟨9000000, .least⟩ 9000000 ∧
      spread.Follows 9000000 ⟨10000000, .half⟩ 19000000 ∧
      client.InFlight ((initial spread 1).trail finish? uneven) last := by
  have sound : spread.validate = .ok () := by rfl
  have keepsOn : ∀ action ∈ uneven, action.KeepsOn := by simp [uneven, Action.KeepsOn]
  have calm : .panicked ∉ (initial spread 1).pollEnds uneven := by
    have failed : ((initial spread 1).pollEnds uneven).all PollEnd.isFailed = true := by decide +kernel
    exact fun panicked => Bool.false_ne_true (List.all_eq_true.mp failed _ panicked)
  have finishes : (initial spread 1).trail finish? uneven = [⟨9000000, .least⟩, ⟨10000000, .half⟩] := by
    decide +kernel
  have seen : ((initial spread 1).run uneven).map (fun client => (client.now, client.fetches.toList)) =
      some (19000000, [⟨0, ⟨none, 1, .ofMillis 9⟩⟩, ⟨9000000, ⟨none, 2, .ofMillis 9⟩⟩, ⟨19000000, ⟨none, 3, .ofMillis 9⟩⟩]) := by
    decide +kernel
  obtain ⟨client, ran, same⟩ := Option.map_eq_some_iff.mp seen
  obtain ⟨now, calls⟩ := Prod.mk.inj same
  have size : client.fetches.size = 3 := by rw [← Array.length_toList, calls]; rfl
  have found : ∀ index, client.fetches[index]? = client.fetches.toList[index]? :=
    fun _ => (Array.getElem?_toList ..).symm
  have named : spread.NamesDeadlines client.now :=
    namesDeadlines_of_greatest sound (now ▸ by decide) (now ▸ by decide +kernel)
  obtain ⟨follows, _, goesOn⟩ := polls_on_schedule spread 1 uneven client sound (by decide) ran named
  rw [finishes] at follows goesOn
  obtain ⟨finish, ended, first⟩ := follows 0 _ _ (by rw [found, calls]; rfl) (by rw [found, calls]; rfl)
  obtain rfl := Option.some.inj ended
  obtain ⟨finish, ended, second⟩ := follows 1 _ _ (by rw [found, calls]; rfl) (by rw [found, calls]; rfl)
  obtain rfl := Option.some.inj ended
  have back : client.fetches.back? = some ⟨19000000, ⟨none, 3, .ofMillis 9⟩⟩ := by
    rw [Array.back?, size, found, calls]
    rfl
  obtain ⟨flight | ⟨ended, _⟩, _⟩ := goesOn keepsOn calm _ _ (by rw [found, calls]; rfl) back
  · exact ⟨client, _, ran, sound, named, keepsOn, calm, by rw [calls]; rfl, first, second, finishes ▸ flight⟩
  · exact absurd (size.symm.trans ended) (by simp)

end Client

end LiveFlags
