import LiveFlags.Proofs.Client.Lifecycle

/-!
# The time of a poll

A fetch may take until its deadline: the first instant at which a timer can run out that lies no earlier
than the end of the time for a fetch. A fetch in flight is cut off at the deadline of the instant at
which it began, and it is never overdue (`Punctual`), because time stops at every instant at which
something has to happen first.
-/
namespace LiveFlags.Client

/-- The instant until which a fetch that begins at an instant may take. -/
def deadline (client : Client) (began : Instant) : Instant :=
  client.roundUp (Instant.timer began client.config.fetchTimeout)

variable {client : Client}

/-- Timers do not run out early, and less than one step late. -/
theorem roundUp_bounds (instant : Nat) :
    instant ≤ client.roundUp instant ∧ client.roundUp instant < instant + max client.timerStep 1 := by
  unfold roundUp
  by_cases fine : client.timerStep = 0
  · rw [if_pos fine]
    exact ⟨Nat.le_refl instant, Nat.lt_add_of_pos_right (by omega)⟩
  · rw [if_neg fine]
    have whole := Nat.div_add_mod' (instant + client.timerStep - 1) client.timerStep
    have below := Nat.mod_lt (instant + client.timerStep - 1) (Nat.pos_of_ne_zero fine)
    generalize (instant + client.timerStep - 1) / client.timerStep * client.timerStep = up at whole ⊢
    have reached : instant ≤ up ∧ up < instant + max client.timerStep 1 := by omega
    exact reached

/-- A timer can run out at every multiple of its step. -/
theorem roundUp_of_dvd {instant : Nat} (whole : client.timerStep ∣ instant) : client.roundUp instant = instant := by
  obtain ⟨steps, rfl⟩ := whole
  unfold roundUp
  by_cases fine : client.timerStep = 0
  · rw [if_pos fine]
  · have positive : 0 < client.timerStep := Nat.pos_of_ne_zero fine
    rw [if_neg fine, Nat.add_sub_assoc positive, Nat.mul_add_div positive,
      Nat.div_eq_of_lt (Nat.sub_lt positive Nat.one_pos), Nat.add_zero, Nat.mul_comm]

/-- The deadline depends on the configuration and on the timers only. -/
theorem deadline_eq {other : Client} (config : other.config = client.config)
    (timerStep : other.timerStep = client.timerStep) : other.deadline = client.deadline := by
  unfold deadline roundUp
  rw [config, timerStep]

/-- A timer does not run out before it is set. -/
theorem le_timer (start : Instant) (duration : Duration) : start ≤ client.roundUp (Instant.timer start duration) := by
  refine Nat.le_trans ?_ (roundUp_bounds _).1
  unfold Instant.timer Instant.after?
  split
  · exact Nat.le_add_right _ _
  · exact Nat.le_add_right _ _

/-- A timer that is set for some time runs out later than it is set. -/
theorem lt_timer (start : Instant) {duration : Duration} (positive : 0 < duration.nanos) :
    start < client.roundUp (Instant.timer start duration) := by
  refine Nat.lt_of_lt_of_le ?_ (roundUp_bounds _).1
  unfold Instant.timer Instant.after?
  split
  · exact Nat.lt_add_of_pos_right positive
  · exact Nat.lt_add_of_pos_right (by decide)

/-- A timer runs out after its time and less than one step of the timers more, as long as the clock can name the
instant. -/
theorem timer_bounds {start : Instant} {duration : Duration} (named : start + duration.nanos < Instant.limit) :
    start + duration.nanos ≤ client.roundUp (Instant.timer start duration) ∧
      client.roundUp (Instant.timer start duration) < start + duration.nanos + max client.timerStep 1 := by
  have timer : Instant.timer start duration = start + duration.nanos := by
    simp [Instant.timer, Instant.after?, named]
  rw [timer]
  exact roundUp_bounds _

/-- A fetch is not cut off before it begins. -/
theorem le_deadline (began : Instant) : began ≤ client.deadline began := le_timer began _

/-- A fetch may take as long as its time and less than one step of the timers more, as long as the clock
can name the instant. -/
theorem deadline_bounds {began : Instant} (named : began + client.config.fetchTimeout.nanos < Instant.limit) :
    began + client.config.fetchTimeout.nanos ≤ client.deadline began ∧
      client.deadline began < began + client.config.fetchTimeout.nanos + max client.timerStep 1 :=
  timer_bounds named

/-- A configuration that gives a fetch one millisecond and a half. -/
def hurried : Config := ⟨.ofMillis 100, 0.0, ⟨1500000, by decide⟩⟩

/-- The fetch in flight has begun, is cut off at its deadline and is not overdue. -/
def Punctual (client : Client) : Prop :=
  ∀ started cutOff, client.task = .fetching started cutOff →
    cutOff = client.deadline started ∧ started ≤ client.now ∧ client.now ≤ cutOff

/-- A client whose task does not wait for a fetch is punctual. -/
theorem punctual_of_calm (calm : ∀ started cutOff, client.task ≠ .fetching started cutOff) :
    Punctual client :=
  fun started cutOff fetching => absurd fetching (calm started cutOff)

variable {next : Client} {action : Action} {actions : List Action}

/-- Time stops for the task, for a call that can go on with the lock and for the callers that wait for
the first snapshot. -/
theorem mem_dues {due : Instant} : due ∈ client.dues ↔
    client.taskDue? = some due ∨ (client.lockDue = true ∧ due = client.now) ∨
      ∃ waiter ∈ client.waiters, (if client.isReady then client.now else waiter.givesUp) = due := by
  simp only [dues, List.mem_append, Option.mem_toList, List.mem_ite_nil_right,
    List.mem_singleton, List.mem_map, or_assoc]

/-- Time passes no further than the instant by which the task goes on. -/
theorem le_of_taskDue {nanos : Nat} {due : Instant}
    (inTime : ∀ due ∈ client.dues, client.now + nanos ≤ due) (goesOn : client.taskDue? = some due) :
    client.now + nanos ≤ due :=
  inTime due (mem_dues.mpr (.inl goesOn))

/-- No time passes while a call can go on with the lock. -/
theorem elapsed_zero_of_lockDue {nanos : Nat} (inTime : ∀ due ∈ client.dues, client.now + nanos ≤ due)
    (goesOn : client.lockDue = true) : nanos = 0 := by
  have still : client.now + nanos ≤ client.now :=
    inTime client.now (mem_dues.mpr (.inr (.inl ⟨goesOn, rfl⟩)))
  exact Nat.eq_zero_of_le_zero (Nat.le_of_add_le_add_left still)

/-- Every step leaves a punctual client punctual. -/
theorem punctual_step (stepped : client.step action = some next) (punctual : Punctual client) :
    Punctual next := by
  have unchanged := punctual
  cases transition_of_step stepped with
  | begins due untold =>
    intro started cutOff fetching
    obtain ⟨rfl, rfl⟩ := Task.fetching.inj fetching
    exact ⟨rfl, Nat.le_refl _, le_deadline _⟩
  | elapses nanos inTime =>
    intro started cutOff fetching
    obtain ⟨cut, begun, _⟩ := unchanged started cutOff fetching
    have fetching : client.task = .fetching started cutOff := fetching
    exact ⟨cut, Nat.le_trans begun (Nat.le_add_right _ _),
      le_of_taskDue inTime (by simp [taskDue?, fetching])⟩
  | starts | exits | overflows | panics => exact punctual_of_calm (by simp)
  | answers | cutsOff => exact punctual_of_calm (taskAfter_ne_fetching _ _ _)
  | dropsRunning still running => exact punctual_of_calm (abortTask_ne_fetching _)
  | calls | refuses | startFails | startsAgain | cancels | stopsIdle | stopsAgain | drains | leavesDrain
  | leavesQueue | publishes | awaits | notices | givesUp | dropsOther => exact punctual

/-- Every run leaves a punctual client punctual. -/
theorem Punctual.run (punctual : Punctual client) (ran : client.run actions = some next) : Punctual next :=
  run_keeps Punctual (fun _ => True) (fun _ => punctual_step) (fun _ _ => trivial) ran punctual

/-- A client that has not done anything is punctual. -/
theorem punctual_initial (config : Config) (timerStep : Nat) : Punctual (initial config timerStep) :=
  punctual_of_calm (by simp [initial])

/-- Every client that can be reached is punctual. -/
theorem punctual_run {config : Config} {timerStep : Nat}
    (ran : (initial config timerStep).run actions = some client) : Punctual client :=
  (punctual_initial config timerStep).run ran

end LiveFlags.Client
