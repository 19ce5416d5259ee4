import Mathlib.Data.List.Induction
import LiveFlags.Proofs.Client.Draining

/-!
# Stops that go away

A caller may go away while its stop waits for the task to end. Then the lock is free although a fetch may
be in flight, and a stop that takes the lock afterwards returns at once. So what a stop has to mean to its
caller, that nothing is recorded any more (`Quiet`), holds when it returns exactly if no fetch is in
flight then (`quiet_iff_calm`), and one can be in flight only if a stop has gone away while the task
drained this fetch (`leftDuring_run`). In the same way a client that is dropped takes its task with it
only if nobody has stopped it. `Halts` says so for every state that can be reached, whoever goes away.
-/
namespace LiveFlags.Client

/-- Nothing is recorded any more as long as only the poll task publishes. -/
def Quiet (client : Client) : Prop :=
  ∀ later next, (∀ action ∈ later, action.Unpublished) → client.run later = some next →
    SameRecord client next

/-- A fetch is in flight whose task has been told to stop, and no stop waits for it. -/
structure Unattended (client : Client) : Prop where
  /-- The client has been stopped. -/
  stopped : client.guarded = .stopped
  /-- The lock is free. -/
  free : client.draining = none
  /-- A fetch is in flight. -/
  fetching : ∃ started cutOff, client.task = .fetching started cutOff

/-- Along the run a stop has gone away while the task drained the fetch that is in flight in the end. -/
def LeftDuring (client : Client) (actions : List Action) (next : Client) : Prop :=
  ∃ before caller after middle, actions = before ++ .abandon caller :: after ∧
    client.run before = some middle ∧ middle.draining = some caller ∧ middle.task = next.task ∧
      middle.fetches = next.fetches

variable {client next : Client} {action : Action} {actions : List Action}

/-- A fetch is left to itself when the stop that waits for it goes away, and stays so until it ends. -/
theorem unattended_step (orderly : Orderly client) (stepped : client.step action = some next)
    (unattended : Unattended next) :
    next.task = client.task ∧ next.fetches = client.fetches ∧
      (Unattended client ∨ ∃ caller, action = .abandon caller ∧ client.draining = some caller) := by
  obtain ⟨stopped, free, started, cutOff, fetching⟩ := unattended
  cases transition_of_step stepped with
  | starts => simp at stopped
  | cancels => simp at free
  | stopsIdle _ _ _ _ idle => simp [(orderly.idle idle).1] at fetching
  | drains _ how _ past => simp [past] at fetching
  | leavesDrain caller holds => exact ⟨rfl, rfl, .inr ⟨caller, rfl, holds⟩⟩
  | exits | overflows | panics => simp at fetching
  | begins due untold =>
    exact absurd ((orderly.stopped stopped).resolve_right (by simp [untold])) (rested_of_due due).1
  | answers _ draw began | cutsOff draw began =>
    exact absurd fetching (client.taskAfter_ne_fetching began draw started cutOff)
  | dropsRunning => exact absurd fetching (abortTask_ne_fetching _ started cutOff)
  | calls | refuses | startFails | startsAgain | stopsAgain | leavesQueue | publishes | awaits | notices
  | givesUp | elapses | dropsOther => exact ⟨rfl, rfl, .inl ⟨stopped, free, started, cutOff, fetching⟩⟩

/-- A fetch that no stop waits for has been left to itself by a stop that has gone away. -/
theorem leftDuring_run (orderly : Orderly client) (attended : ¬Unattended client)
    (ran : client.run actions = some next) (unattended : Unattended next) :
    LeftDuring client actions next := by
  -- the run is cut at its last step: what is left behind in the end was so before, or is left by this step
  induction actions using List.reverseRecOn generalizing next with
  | nil =>
    obtain rfl := Option.some.inj ran
    exact absurd unattended attended
  | append_singleton actions action ih =>
    obtain ⟨middle, reached, stepped⟩ := run_concat ran
    obtain ⟨task, fetches, before | ⟨caller, rfl, holds⟩⟩ :=
      unattended_step (orderly.run reached) stepped unattended
    · obtain ⟨first, caller, rest, left, rfl, reached', holds, task', fetches'⟩ := ih reached before
      exact ⟨first, caller, rest ++ [action], left, by simp, reached', holds, task'.trans task.symm,
        fetches'.trans fetches.symm⟩
    · exact ⟨actions, caller, [], middle, rfl, reached, holds, task.symm, fetches.symm⟩

/-- A stopped client begins no fetch. -/
theorem fetches_of_stopped (orderly : Orderly client) (stopped : client.guarded = .stopped)
    (ran : client.run actions = some next) : next.fetches = client.fetches := by
  have kept := run_keeps_of_orderly
    (fun middle => middle.guarded = .stopped ∧ middle.fetches = client.fetches) (fun _ => True)
    (fun {middle next action} orderly _ stepped held => by
      refine ⟨stopped_step stepped held.1, ?_⟩
      rw [← held.2]
      cases transition_of_step stepped with
      | begins due untold =>
        have absent := (orderly.stopped held.1).resolve_right (by simp [untold])
        exact absurd absent (rested_of_due due).1
      | _ => rfl)
    (fun _ _ => trivial) orderly ran ⟨stopped, rfl⟩
  exact kept.2

/-- The task of a stopped client is over or has been told to stop. -/
theorem told_of_stopped (orderly : Orderly client) (stopped : client.guarded = .stopped) :
    client.task.isOver = true ∨ client.cancelled = true :=
  (orderly.stopped stopped).imp_left fun absent => by simp [absent, Task.isOver]

/-- A failure changes the counters. -/
theorem recordFailure_ne (tracker : Tracker) (failure : PollFailure) :
    tracker.recordFailure failure ≠ tracker := by
  intro same
  have count : tracker.pollErrorCount + 1 = tracker.pollErrorCount :=
    congrArg Tracker.pollErrorCount same
  simp at count

/-- Nothing is recorded any more once the task is over or has been told to stop, exactly if no fetch is in
flight. -/
theorem quiet_iff_calm (taken : client.guarded ≠ .idle)
    (told : client.task.isOver = true ∨ client.cancelled = true) :
    Quiet client ↔ ∀ started cutOff, client.task ≠ .fetching started cutOff := by
  constructor
  · intro quiet started cutOff fetching
    -- the source can still fail
    have stepped : client.run [.answer (.error .unauthorized) .half] =
        some (client.afterPoll (client.outcome (.error .unauthorized)) started .half) := by
      have counts : client.sequenceAfter? (client.outcome (.error .unauthorized)) = some client.nextSequence := rfl
      have answered := answered?_eq fetching counts .half
      simp only [run, step, answered, Option.bind_some]
    obtain ⟨_, tracker, _⟩ := quiet _ _ (by simp [Action.Unpublished]) stepped
    exact recordFailure_ne _ _ tracker
  · intro calm later next unpublished ran
    exact (spent_run unpublished ran ⟨taken, told, calm⟩).2.1

/-- What a stop and a drop mean in a state that a run of these actions has led to, for everything that can
happen from it on, if callers may go away. -/
structure Halts (config : Config) (timerStep : Nat) (actions : List Action) (client : Client) : Prop where
  /-- After a stop has returned no fetch begins any more. -/
  neverFetches : ∀ action next caller, client.step action = some next →
    client.stopReturn? action = some caller → ∀ later last, next.run later = some last →
    last.fetches = next.fetches
  /-- After a stop has returned nothing is recorded any more, exactly if no fetch is in flight. -/
  quietIfCalm : ∀ action next caller, client.step action = some next →
    client.stopReturn? action = some caller →
    (Quiet next ↔ ∀ started cutOff, next.task ≠ .fetching started cutOff)
  /-- A fetch is in flight then only if another stop has gone away while the task drained this fetch. -/
  calmUnlessLeft : ∀ action next caller started cutOff, client.step action = some next →
    client.stopReturn? action = some caller → next.task = .fetching started cutOff →
    LeftDuring (initial config timerStep) (actions ++ [action]) next
  /-- What is recorded of this fetch is its outcome, once, by its deadline, and then nothing any more. -/
  appliesOnce : ∀ action next caller started cutOff, client.step action = some next →
    client.stopReturn? action = some caller → next.task = .fetching started cutOff →
    cutOff = next.deadline started ∧ ∀ later last, (∀ action ∈ later, action.Unpublished) →
      next.run later = some last →
      (next.pollEnds later = [] ∧ last.task = next.task ∧ SameRecord next last) ∨
        ∃ finish instant, next.pollEnds later = [finish] ∧ instant ≤ cutOff ∧ Frozen last ∧
          (last.store, last.tracker) = next.settled instant finish
  /-- A client that has been started and not stopped takes its task with it when it is dropped, without an
  outcome of the fetch in flight. -/
  dropsRunning : client.guarded = .running → ∀ next, client.step .drop = some next →
    next.task.isOver = true ∧ SameRecord client next ∧ Quiet next
  /-- A client that has been stopped leaves its task behind when it is dropped, and the outcome of the fetch
  in flight, if there is one, is still recorded. -/
  dropsStopped : client.guarded = .stopped → ∀ next, client.step .drop = some next →
    next = client ∧ (Quiet next ↔ ∀ started cutOff, next.task ≠ .fetching started cutOff)

/-- Whoever goes away, a stop that returns has ended polling except for a fetch that another stop has left
in flight, and so has a drop. -/
theorem halts_unless_left (config : Config) (timerStep : Nat) (actions : List Action) (client : Client)
    (ran : (initial config timerStep).run actions = some client) :
    Halts config timerStep actions client := by
  have orderly := orderly_run ran
  have punctual := punctual_run ran
  constructor
  case neverFetches =>
    intro action next caller stepped returned later last ran'
    obtain ⟨_, _, stopped, _⟩ := stopped_of_stopReturn orderly stepped returned
    exact fetches_of_stopped (orderly_step stepped orderly) stopped ran'
  case quietIfCalm =>
    intro action next caller stepped returned
    obtain ⟨_, _, stopped, _⟩ := stopped_of_stopReturn orderly stepped returned
    exact quiet_iff_calm (by simp [stopped]) (told_of_stopped (orderly_step stepped orderly) stopped)
  case calmUnlessLeft =>
    intro action next caller started cutOff stepped returned fetching
    obtain ⟨_, _, stopped, free⟩ := stopped_of_stopReturn orderly stepped returned
    have attended : ¬Unattended (initial config timerStep) := fun unattended => by
      simpa [initial] using unattended.stopped
    refine leftDuring_run (orderly_initial config timerStep) attended ?_
      ⟨stopped, free, started, cutOff, fetching⟩
    rw [run_append, ran]
    simp [run, stepped]
  case appliesOnce =>
    intro action next caller started cutOff stepped returned fetching
    obtain ⟨_, _, stopped, _⟩ := stopped_of_stopReturn orderly stepped returned
    have orderly' := orderly_step stepped orderly
    have punctual' := punctual_step stepped punctual
    have told := (orderly'.stopped stopped).resolve_left (by simp [fetching])
    refine ⟨(punctual' started cutOff fetching).1, fun later last unpublished ran' => ?_⟩
    exact fetching_run orderly' punctual' unpublished ran' told fetching
  case dropsRunning =>
    intro running next stepped
    have aborted := isOver_abortTask (orderly.running running).1
    cases transition_of_step stepped with
    | dropsRunning =>
      refine ⟨aborted.2, ⟨rfl, rfl, rfl⟩, ?_⟩
      exact (quiet_iff_calm (by simp [running]) (.inl aborted.2)).mpr (abortTask_ne_fetching _)
    | dropsOther _ other => exact absurd running other
  case dropsStopped =>
    intro stopped next stepped
    cases transition_of_step stepped with
    | dropsRunning _ running => simp [stopped] at running
    | dropsOther =>
      exact ⟨rfl, quiet_iff_calm (by simp [stopped]) (told_of_stopped orderly stopped)⟩

/-- A stop goes away while the first fetch is in flight, and another waits for the lock. -/
def leftInFlight : List Action :=
  [.call 0 .start, .takeLock, .resume, .call 1 .stop, .call 2 .stop, .takeLock, .abandon 1]

/-- The other stop returns while the fetch is in flight, which the first has left to itself, and it is
not the end of what is recorded. -/
theorem halts_unless_left_leftInFlight :
    ∃ client next, (initial .default 1000000).run leftInFlight = some client ∧
      client.step .takeLock = some next ∧ client.stopReturn? .takeLock = some 2 ∧
      next.task = .fetching 0 10000000000 ∧ ¬Quiet next ∧
      LeftDuring (initial .default 1000000) (leftInFlight ++ [.takeLock]) next := by
  have ran : (initial .default 1000000).run leftInFlight = some _ := rfl
  have halts := halts_unless_left .default 1000000 leftInFlight _ ran
  refine ⟨_, _, ran, rfl, rfl, rfl, fun quiet => ?_, ?_⟩
  · exact (halts.quietIfCalm .takeLock _ 2 rfl rfl).mp quiet 0 10000000000 rfl
  · exact halts.calmUnlessLeft .takeLock _ 2 0 10000000000 rfl rfl rfl

/-- After a stop has gone away another stop returns while a fetch is in flight, and then the set that the
source answers is published. It is published as well if the client is dropped before. -/
theorem left_fetch_published :
    Config.default.validate = .ok () ∧
    (∃ client next last, (initial .default 1000000).run leftInFlight = some client ∧
      client.step .takeLock = some next ∧ client.stopReturn? .takeLock = some 2 ∧
      next.run [.answer (.ok (FlagSet.empty.withVersion "a")) .half] = some last ∧
      next.task.isOver = false ∧ next.snapshot.version = none ∧ last.snapshot.version = some "a" ∧
      next.tracker.stats next.now ≠ last.tracker.stats last.now) ∧
    ∃ client last,
      (initial .default 1000000).run [.call 0 .start, .takeLock, .resume, .call 1 .stop, .takeLock,
        .abandon 1, .drop] = some client ∧
      client.run [.answer (.ok (FlagSet.empty.withVersion "a")) .half] = some last ∧
      client.task.isOver = false ∧ client.snapshot.version = none ∧ last.snapshot.version = some "a" := by
  refine ⟨rfl, ⟨_, _, _, rfl, rfl, rfl, rfl, rfl, rfl, rfl, ?_⟩, _, _, rfl, rfl, rfl, rfl, rfl⟩
  exact fun same => absurd (congrArg Stats.lastSuccessfulPollAt same) (by decide)

end LiveFlags.Client
