import LiveFlags.Proofs.Client.Run

/-!
# The life of a client

What the lock guards, the task and the cancellation go together in every state that a client can reach,
whoever calls, goes away or drops it (`Orderly`): before the first start there is no task and there has
been no fetch, a started client is told to stop only by its owner dropping it, and a stopped one has no
task or has told it to stop.
-/
namespace LiveFlags

/-- The task has ended or there never was one. -/
def Task.isOver : Task → Bool
  | .absent | .ended _ => true
  | _ => false

/-- The fetches that have begun and have no outcome: one if the task waits for a fetch or has ended in a
poll without one. -/
def Task.openFetches : Task → Nat
  | .fetching _ _ => 1
  | .ended (.panicked inPoll) => inPoll.toNat
  | .ended (.aborted inPoll) => inPoll.toNat
  | _ => 0

/-- At most one fetch is open. -/
theorem Task.openFetches_le_one (task : Task) : task.openFetches ≤ 1 := by
  unfold openFetches
  split
  · exact Nat.le_refl 1
  · exact Bool.toNat_le _
  · exact Bool.toNat_le _
  · exact Nat.zero_le 1

namespace Client

/-- What the lock guards agrees with the task. -/
structure Orderly (client : Client) : Prop where
  /-- Before the first start nothing has happened. -/
  idle : client.guarded = .idle → client.task = .absent ∧ client.cancelled = false ∧
    client.draining = none ∧ client.fetches = #[]
  /-- A started client has a task, which goes on unless the owner has dropped the client. -/
  running : client.guarded = .running → client.task ≠ .absent ∧ client.draining = none ∧
    (client.cancelled = true → client.task.isOver = true)
  /-- A stopped client has told its task to stop, if there is one. -/
  stopped : client.guarded = .stopped → client.task = .absent ∨ client.cancelled = true
  /-- A stop keeps the lock only to wait for a task. -/
  draining : ∀ caller, client.draining = some caller → client.guarded = .stopped ∧ client.task ≠ .absent

/-- A client that has not done anything is orderly. -/
theorem orderly_initial (config : Config) (timerStep : Nat) : Orderly (initial config timerStep) where
  idle _ := ⟨rfl, rfl, rfl, rfl⟩
  running guarded := by cases guarded
  stopped guarded := by cases guarded
  draining _ holds := by cases holds

/-- A task that can be woken is there, is not over and waits for no fetch. -/
theorem rested_of_woken {task : Task} (woken : task = .queued ∨ ∃ wake, task = .sleeping wake) :
    task ≠ .absent ∧ task.isOver = false ∧ task.openFetches = 0 := by
  rcases woken with rfl | ⟨wake, rfl⟩
  · exact ⟨by simp, rfl, rfl⟩
  · exact ⟨by simp, rfl, rfl⟩

/-- A task that is due can be woken. -/
theorem rested_of_due {task : Task} {now : Instant}
    (due : task = .queued ∨ ∃ wake ≤ now, task = .sleeping wake) :
    task ≠ .absent ∧ task.isOver = false ∧ task.openFetches = 0 :=
  rested_of_woken (due.imp_right fun ⟨wake, _, sleeping⟩ => ⟨wake, sleeping⟩)

/-- A task that has ended or was never there is not running. -/
theorem isOver_abortTask {task : Task} (h : task ≠ .absent) :
    abortTask task ≠ .absent ∧ (abortTask task).isOver = true := by
  cases task with
  | absent => exact absurd rfl h
  | queued | fetching | sleeping | ended => exact ⟨by simp [abortTask], rfl⟩

/-- The task that a poll leaves behind has ended or sleeps, and it sleeps only if it has not been told to
stop. -/
theorem taskAfter_cases (client : Client) (started : Instant) (draw : Draw) :
    client.taskAfter started draw = .ended (.panicked false) ∨
      client.taskAfter started draw = .ended .finished ∨
      (client.cancelled = false ∧ ∃ wake, client.taskAfter started draw = .sleeping wake) := by
  unfold taskAfter
  cases client.nextWake? started draw with
  | none => exact .inl rfl
  | some wake =>
    by_cases told : client.cancelled = true
    · exact .inr (.inl (if_pos told))
    · exact .inr (.inr ⟨by simpa using told, client.roundUp wake, if_neg told⟩)

/-- The task that a poll leaves behind is there, and it is over if it has been told to stop. -/
theorem isOver_taskAfter (client : Client) (started : Instant) (draw : Draw) :
    client.taskAfter started draw ≠ .absent ∧
      (client.cancelled = true → (client.taskAfter started draw).isOver = true) := by
  rcases client.taskAfter_cases started draw with left | left | ⟨untold, wake, left⟩
  · simp [left, Task.isOver]
  · simp [left, Task.isOver]
  · simp [left, untold]

/-- The task that a poll leaves behind does not wait for a fetch. -/
theorem taskAfter_ne_fetching (client : Client) (started : Instant) (draw : Draw) (began cutOff : Instant) :
    client.taskAfter started draw ≠ .fetching began cutOff := by
  rcases client.taskAfter_cases started draw with left | left | ⟨_, wake, left⟩ <;> simp [left]

/-- The task that a poll leaves behind has run. -/
theorem taskAfter_ne_queued (client : Client) (started : Instant) (draw : Draw) :
    client.taskAfter started draw ≠ .queued := by
  rcases client.taskAfter_cases started draw with left | left | ⟨_, wake, left⟩ <;> simp [left]

/-- The task that a poll leaves behind has no open fetch. -/
theorem openFetches_taskAfter (client : Client) (started : Instant) (draw : Draw) :
    (client.taskAfter started draw).openFetches = 0 := by
  rcases client.taskAfter_cases started draw with left | left | ⟨_, wake, left⟩ <;> rw [left] <;> rfl

/-- An aborted task does not wait for a fetch. -/
theorem abortTask_ne_fetching (task : Task) (began cutOff : Instant) :
    abortTask task ≠ .fetching began cutOff := by
  cases task <;> simp [abortTask]

/-- A task that is aborted keeps its open fetch, if it has one. -/
theorem openFetches_abortTask (task : Task) : (abortTask task).openFetches = task.openFetches := by
  cases task <;> rfl

variable {client next : Client} {action : Action}

/-- Another task in the place of one that is there, over if the task is told to stop, leaves the client
orderly. -/
theorem Orderly.of_task (orderly : Orderly client) (present : client.task ≠ .absent)
    (present' : next.task ≠ .absent) (past : client.cancelled = true → next.task.isOver = true)
    (guarded : next.guarded = client.guarded) (cancelled : next.cancelled = client.cancelled)
    (draining : next.draining = client.draining) : Orderly next where
  idle idle := absurd (orderly.idle (guarded ▸ idle)).1 present
  running running := by
    rw [guarded] at running
    rw [draining, cancelled]
    exact ⟨present', (orderly.running running).2.1, past⟩
  stopped stopped := by
    rw [guarded] at stopped
    rw [cancelled]
    exact .inr ((orderly.stopped stopped).resolve_left present)
  draining caller holds := by
    rw [draining] at holds
    rw [guarded]
    exact ⟨(orderly.draining caller holds).1, present'⟩

/-- The log has no part in the order. -/
theorem Orderly.logging (orderly : Orderly client) (events : List Event) :
    Orderly (client.logging events) :=
  ⟨orderly.idle, orderly.running, orderly.stopped, orderly.draining⟩

/-- Every step leaves an orderly client orderly. -/
theorem orderly_step (stepped : client.step action = some next) (orderly : Orderly client) :
    Orderly next := by
  have unchanged := orderly
  obtain ⟨idle, running, stopped, draining⟩ := orderly
  cases transition_of_step stepped with
  | starts caller rest free head idle =>
    exact ⟨by simp, by simp [free], by simp, by simp [free]⟩
  | cancels caller rest free head running =>
    exact ⟨by simp, by simp, by simp, by simp [(unchanged.running running).1]⟩
  | stopsIdle caller rest free head idle =>
    exact ⟨by simp, by simp, fun _ => .inl (unchanged.idle idle).1, by simp [free]⟩
  | drains caller how holds past =>
    have guarded := (draining caller holds).1
    exact ⟨by simp [guarded], by simp [guarded], stopped, by simp⟩
  | leavesDrain caller holds =>
    have guarded := (draining caller holds).1
    exact ⟨by simp [guarded], by simp [guarded], stopped, by simp⟩
  | exits woken told =>
    exact unchanged.of_task (rested_of_woken woken).1 (by simp) (fun _ => rfl) rfl rfl rfl
  | begins due untold =>
    exact unchanged.of_task (rested_of_due due).1 (by simp [beginPoll]) (by simp [untold]) rfl rfl rfl
  | answers result draw started cutOff fetching =>
    have left := client.isOver_taskAfter started draw
    exact unchanged.of_task (by simp [fetching]) left.1 left.2 rfl rfl rfl
  | cutsOff draw started cutOff fetching late =>
    have left := client.isOver_taskAfter started draw
    exact unchanged.of_task (by simp [fetching]) left.1 left.2 rfl rfl rfl
  | overflows _ _ started cutOff fetching | panics started cutOff fetching =>
    exact unchanged.of_task (by simp [fetching]) (by simp) (fun _ => rfl) rfl rfl rfl
  | dropsRunning still guarded =>
    have aborted := isOver_abortTask (running guarded).1
    exact ⟨by simp [guarded], fun _ => ⟨aborted.1, still.1, fun _ => aborted.2⟩, by simp [guarded],
      by simp [still.1]⟩
  | calls | refuses | startFails | startsAgain | stopsAgain | leavesQueue | publishes | awaits | notices
  | givesUp | elapses | dropsOther => exact ⟨idle, running, stopped, draining⟩

/-- No step changes the configuration or the timers. -/
theorem config_step (stepped : client.step action = some next) :
    next.config = client.config ∧ next.timerStep = client.timerStep := by
  cases transition_of_step stepped <;> exact ⟨rfl, rfl⟩

/-- A client keeps the configuration and the timers that it was made with. -/
theorem config_run {config : Config} {timerStep : Nat} {actions : List Action}
    (ran : (initial config timerStep).run actions = some client) :
    client.config = config ∧ client.timerStep = timerStep :=
  run_keeps (fun client => client.config = config ∧ client.timerStep = timerStep) (fun _ => True)
    (fun _ stepped kept => ⟨(config_step stepped).1.trans kept.1, (config_step stepped).2.trans kept.2⟩)
    (fun _ _ => trivial) ran ⟨rfl, rfl⟩

/-- A client is stopped for good. -/
theorem stopped_step (stepped : client.step action = some next) (stopped : client.guarded = .stopped) :
    next.guarded = .stopped := by
  cases transition_of_step stepped with
  | starts _ _ _ _ idle => simp [stopped] at idle
  | cancels | stopsIdle => rfl
  | _ => exact stopped

/-- Every run leaves an orderly client orderly. -/
theorem Orderly.run {actions : List Action} (orderly : Orderly client)
    (ran : client.run actions = some next) : Orderly next :=
  run_keeps Orderly (fun _ => True) (fun _ => orderly_step) (fun _ _ => trivial) ran orderly

/-- What every allowed step of an orderly client keeps, every run of allowed actions keeps. -/
theorem run_keeps_of_orderly {actions : List Action} (kept : Client → Prop) (allowed : Action → Prop)
    (keeps : ∀ {client next : Client} {action : Action}, Orderly client → allowed action →
      client.step action = some next → kept client → kept next)
    (within : ∀ action ∈ actions, allowed action) (orderly : Orderly client)
    (ran : client.run actions = some next) (start : kept client) : kept next :=
  (run_keeps (fun middle => Orderly middle ∧ kept middle) allowed
    (fun here stepped held => ⟨orderly_step stepped held.1, keeps held.1 here stepped held.2⟩)
    within ran ⟨orderly, start⟩).2

/-- Every client that can be reached is orderly. -/
theorem orderly_run {config : Config} {timerStep : Nat} {actions : List Action}
    (ran : (initial config timerStep).run actions = some client) : Orderly client :=
  (orderly_initial config timerStep).run ran

end Client

end LiveFlags
