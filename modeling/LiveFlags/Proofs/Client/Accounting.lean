import LiveFlags.Proofs.Client.Lifecycle

/-!
# Every poll is accounted for

Each fetch that begins is counted once as an attempt, under its own number. It is then in exactly one of
four places: its snapshot was taken, its snapshot was discarded, it failed, or it is open: still in flight
or lost with its task. `Accounted` states this of the counters, the task and the ends of the polls so
far; every step keeps it, whoever calls, publishes, goes away or drops the client in between.
-/
namespace LiveFlags

namespace Client

/-- The counters, the task and the ends of the polls so far account for every fetch that has begun. -/
def Accounted (fetches : Array FetchCall) (tracker : Tracker) (task : Task) (ends : List PollEnd) : Prop :=
  tracker.pollCount = UInt64.ofNat fetches.size ∧
  tracker.pollErrorCount = UInt64.ofNat (ends.countP PollEnd.isFailed) ∧
  fetches.size = ends.countP PollEnd.isPublished + ends.countP PollEnd.isFailed
    + ends.countP PollEnd.isDiscarded + task.openFetches ∧
  ∀ index call, fetches[index]? = some call → call.context.attempt = UInt64.ofNat (index + 1)

variable {client next : Client} {action : Action} {actions : List Action} {ends : List PollEnd}

/-- The account asks of the task only how many fetches are open. -/
theorem Accounted.of_open {fetches : Array FetchCall} {tracker : Tracker} {task : Task}
    (kept : Accounted fetches tracker task ends) (task' : Task) (same : task'.openFetches = task.openFetches) :
    Accounted fetches tracker task' ends := by
  obtain ⟨counted, failed, balance, numbered⟩ := kept
  rw [← same] at balance
  exact ⟨counted, failed, balance, numbered⟩

/-- A poll that begins adds one attempt and one open fetch, and the source is told its number. -/
theorem accounted_begin (kept : Accounted client.fetches client.tracker client.task ends)
    (closed : client.task.openFetches = 0) :
    Accounted client.beginPoll.fetches client.beginPoll.tracker client.beginPoll.task ends := by
  obtain ⟨counted, failed, balance, numbered⟩ := kept
  refine ⟨?_, failed, ?_, ?_⟩
  · simp [beginPoll, Tracker.recordAttempt, counted]
  · simp only [beginPoll, Array.size_push, Task.openFetches]
    omega
  · intro index call found
    simp only [beginPoll, Array.getElem?_push] at found
    split at found
    · rename_i last
      obtain rfl := Option.some.inj found
      simp [Tracker.recordAttempt, counted, last]
    · exact numbered index call found

/-- A poll that comes to an outcome moves its fetch from the open ones to the counter of its end. -/
theorem accounted_finish (outcome : PollOutcome)
    (kept : Accounted client.fetches client.tracker client.task ends) (task : Task)
    (waited : client.task.openFetches = 1) (closed : task.openFetches = 0) :
    Accounted client.fetches (client.trackerAfter outcome) task (ends ++ [client.endOf outcome]) := by
  obtain ⟨counted, failed, balance, numbered⟩ := kept
  cases outcome with
  | failure failure =>
    refine ⟨counted, ?_, ?_, numbered⟩
    · simp [trackerAfter, Tracker.recordFailure, endOf, PollEnd.isFailed, failed]
    · simp only [endOf, List.countP_append, List.countP_singleton, PollEnd.isPublished,
        PollEnd.isFailed, PollEnd.isDiscarded, Bool.false_eq_true, ↓reduceIte]
      omega
  | success snapshot =>
    by_cases taken : client.store.accepts snapshot = true
    · refine ⟨?_, ?_, ?_, numbered⟩
      · simp [trackerAfter, Tracker.recordSuccess, taken, counted]
      · simp [trackerAfter, Tracker.recordSuccess, endOf, PollEnd.isFailed, taken, failed]
      · simp only [endOf, taken, List.countP_append, List.countP_singleton, PollEnd.isPublished,
          PollEnd.isFailed, PollEnd.isDiscarded, Bool.false_eq_true, ↓reduceIte]
        omega
    · refine ⟨?_, ?_, ?_, numbered⟩
      · simp [trackerAfter, taken, counted]
      · simp [trackerAfter, endOf, PollEnd.isFailed, taken, failed]
      · simp only [endOf, taken, List.countP_append, List.countP_singleton, PollEnd.isPublished,
          PollEnd.isFailed, PollEnd.isDiscarded, Bool.false_eq_true, ↓reduceIte]
        omega

/-- A poll that panics leaves its fetch open: the panic takes it away with the task. -/
theorem accounted_panic {started cutOff : Instant} (kept : Accounted client.fetches client.tracker client.task ends)
    (fetching : client.task = .fetching started cutOff) :
    Accounted client.fetches client.tracker (.ended (.panicked true)) (ends ++ [.panicked]) := by
  obtain ⟨counted, failed, balance, numbered⟩ := kept
  refine ⟨counted, ?_, ?_, numbered⟩
  · simpa [PollEnd.isFailed] using failed
  · simpa [fetching, PollEnd.isFailed, PollEnd.isPublished, PollEnd.isDiscarded, Task.openFetches] using balance

/-- Every step keeps the account of the polls. -/
theorem accounted_step (orderly : Orderly client) (stepped : client.step action = some next)
    (kept : Accounted client.fetches client.tracker client.task ends) :
    Accounted next.fetches next.tracker next.task (ends ++ (client.pollEnd? action).toList) := by
  cases transition_of_step stepped with
  | starts caller rest free head idle =>
    have absent := (orderly.idle idle).1
    simpa [pollEnd?] using kept.of_open .queued (by simp [absent, Task.openFetches])
  | exits woken told =>
    have closed := (rested_of_woken woken).2.2
    simpa [pollEnd?] using kept.of_open (.ended .finished) closed.symm
  | begins due untold =>
    have closed := (rested_of_due due).2.2
    simpa [pollEnd?] using accounted_begin kept closed
  | answers result draw started cutOff fetching sequence counts =>
    have finished := accounted_finish (client.outcome result) kept (client.taskAfter started draw)
      (by simp [fetching, Task.openFetches]) (client.openFetches_taskAfter started draw)
    simpa [pollEnd?, fetching, endOfAnswer, counts] using finished
  | cutsOff draw started cutOff fetching late =>
    have finished := accounted_finish (.failure .timeout) kept (client.taskAfter started draw)
      (by simp [fetching, Task.openFetches]) (client.openFetches_taskAfter started draw)
    simpa [pollEnd?, fetching, endOf] using finished
  | overflows result draw started cutOff fetching last =>
    simpa [pollEnd?, fetching, endOfAnswer, last] using accounted_panic kept fetching
  | panics started cutOff fetching =>
    simpa [pollEnd?, fetching] using accounted_panic kept fetching
  | dropsRunning still running =>
    simpa [pollEnd?] using kept.of_open _ (openFetches_abortTask client.task)
  | calls | refuses | startFails | startsAgain | cancels | stopsIdle | stopsAgain | drains | leavesDrain
  | leavesQueue | publishes | awaits | notices | givesUp | elapses | dropsOther =>
    simpa [pollEnd?] using kept

/-- Every run keeps the account of the polls. -/
theorem accounted_run (orderly : Orderly client) (ran : client.run actions = some next)
    (kept : Accounted client.fetches client.tracker client.task ends) :
    Accounted next.fetches next.tracker next.task (ends ++ client.pollEnds actions) := by
  induction actions generalizing client ends with
  | nil =>
    obtain rfl := Option.some.inj ran
    simpa [pollEnds] using kept
  | cons action actions ih =>
    obtain ⟨middle, stepped, ran⟩ := run_cons ran
    rw [pollEnds_cons stepped, ← List.append_assoc]
    exact ih (orderly_step stepped orderly) ran (accounted_step orderly stepped kept)

/-- A client that has not done anything has an empty account. -/
theorem accounted_initial (config : Config) (timerStep : Nat) :
    Accounted (initial config timerStep).fetches (initial config timerStep).tracker
      (initial config timerStep).task [] :=
  ⟨rfl, rfl, rfl, by intro index call found; simp [initial] at found⟩

end Client

end LiveFlags
