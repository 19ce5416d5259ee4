import LiveFlags.Proofs.Client.Faults
import LiveFlags.Proofs.Client.Waits

/-!
# The end of a wait

After every poll the task works out when its wait ends. With a sound configuration the factor of the wait is a
double from zero to two, whatever the draw, so nothing but the reach of the clock is in the way of that: the end can
be named exactly if the clock reaches as far as the beginning of the poll and the wait together
(`Config.wake?_eq`). Every draw has such an end exactly if the greatest one has (`Config.wakes_iff`). Soundness
bounds the interval from below only. So there are sound configurations whose first poll is the last one
(`longest_interval_ends_polling`), whereas a task whose clock reaches the longest wait ahead never ends for want of
an end of its wait (`WakesWithin.endures`).
-/
namespace LiveFlags

namespace Config

/-- The end of the wait after a poll that began at an instant, if it can be named. -/
def wake? (config : Config) (started : Instant) (draw : Draw) : Option Instant :=
  (jittered config.pollInterval config.jitterFraction draw).bind started.after?

/-- The nanoseconds of the wait for one draw, however many they are. -/
def waitNanos (config : Config) (draw : Draw) : Nat :=
  LiveFlags.waitNanos config.pollInterval config.jitterFraction draw

/-- The nanoseconds of the shortest wait, that of the least draw. -/
def shortestWait (config : Config) : Nat := config.waitNanos .least

/-- The nanoseconds of the longest wait, that of the greatest draw. -/
def longestWait (config : Config) : Nat := config.waitNanos .greatest

section Sound

variable {config : Config} (sound : config.validate = .ok ())

include sound

/-- Every wait lies between the shortest and the longest one. -/
theorem waitNanos_bounds (draw : Draw) :
    config.shortestWait ≤ config.waitNanos draw ∧ config.waitNanos draw ≤ config.longestWait := by
  obtain ⟨_, _, _, inRange⟩ := validate_eq_ok_iff.mp sound
  exact LiveFlags.waitNanos_bounds inRange draw

/-- With a sound configuration the end of a wait can be named exactly if the clock reaches that far. -/
theorem wake?_eq (started : Instant) (draw : Draw) :
    config.wake? started draw =
      if started + config.waitNanos draw < Instant.limit then some (started + config.waitNanos draw) else none := by
  obtain ⟨_, _, _, inRange⟩ := validate_eq_ok_iff.mp sound
  rw [wake?, jittered_eq_ofNanos? inRange, Duration.ofNanos?]
  change (if h : config.waitNanos draw < 18446744073709551616000000000 then
    some (Duration.mk (config.waitNanos draw) h) else none).bind _ = _
  by_cases fits : config.waitNanos draw < 18446744073709551616000000000
  · rw [dif_pos fits]
    rfl
  · -- the clock reaches less far than the longest duration
    have beyond : Instant.limit ≤ config.waitNanos draw := Nat.le_trans (by decide) (Nat.le_of_not_lt fits)
    rw [dif_neg fits, if_neg]
    · rfl
    · exact Nat.not_lt.mpr (Nat.le_trans beyond (Nat.le_add_left _ started))

/-- Every draw has an end of its wait exactly if the clock reaches the longest wait ahead. -/
theorem wakes_iff (started : Instant) :
    (∀ draw, ∃ wake, config.wake? started draw = some wake) ↔ started + config.longestWait < Instant.limit := by
  constructor
  · intro wakes
    obtain ⟨wake, named⟩ := wakes .greatest
    by_contra short
    rw [wake?_eq sound, ← longestWait, if_neg short] at named
    contradiction
  · intro reaches draw
    have within := Nat.add_le_add_left (waitNanos_bounds sound draw).2 started
    rw [wake?_eq sound, if_pos (Nat.lt_of_le_of_lt within reaches)]
    exact ⟨_, rfl⟩

/-- No draw has one exactly if the clock does not even reach the shortest wait ahead. -/
theorem never_wakes_iff (started : Instant) :
    (∀ draw, config.wake? started draw = none) ↔ Instant.limit ≤ started + config.shortestWait := by
  constructor
  · intro never
    have none := never .least
    by_contra short
    rw [wake?_eq sound, ← shortestWait, if_pos (Nat.lt_of_not_le short)] at none
    contradiction
  · intro beyond draw
    have within := Nat.add_le_add_left (waitNanos_bounds sound draw).1 started
    rw [wake?_eq sound, if_neg (Nat.not_lt.mpr (Nat.le_trans beyond within))]

end Sound

end Config

namespace Client

variable {config : Config} {client next : Client} {action : Action} {actions : List Action}

/-- What a task that has worked out the end of its wait, or failed to, does next. -/
def restOf (client : Client) : Option Instant → Task
  | none => .ended (.panicked false)
  | some wake => if client.cancelled then .ended .finished else .sleeping (client.roundUp wake)

/-- The task has not ended for want of an end of its wait, unless the clock does not reach the longest wait ahead. -/
def Endures (client : Client) : Prop :=
  client.task = .ended (.panicked false) → Instant.limit ≤ client.now + client.config.longestWait

/-- A client whose task has not ended this way endures. -/
theorem endures_of_task (other : client.task ≠ .ended (.panicked false)) : Endures client :=
  fun same => absurd same other

/-- A poll leaves the task at the end of its wait. -/
theorem taskAfter_eq (client : Client) (started : Instant) (draw : Draw) :
    client.taskAfter started draw = client.restOf (client.config.wake? started draw) := by
  unfold taskAfter restOf nextWake? Config.wake?
  rfl

/-- At the end of a poll the task goes on to the end of its wait, if a sequence is left for the next snapshot. -/
theorem exists_taskAfter {draw : Draw}
    (ends : client.step (.cutOff draw) = some next ∨
      ∃ result, client.sequenceAfter? (client.outcome result) ≠ none ∧ client.step (.answer result draw) = some next) :
    ∃ started cutOff, client.task = .fetching started cutOff ∧ next.task = client.taskAfter started draw := by
  rcases ends with stepped | ⟨result, counts, stepped⟩
  · cases transition_of_step stepped with
    | cutsOff _ started cutOff fetching => exact ⟨started, cutOff, fetching, rfl⟩
  · cases transition_of_step stepped with
    | answers _ _ started cutOff fetching => exact ⟨started, cutOff, fetching, rfl⟩
    | overflows _ _ _ _ _ last => exact absurd last counts

/-- The end of a poll that began in the past does not end the task, as long as the clock reaches far enough. -/
theorem endures_afterPoll (sound : client.config.validate = .ok ()) {started : Instant} (begun : started ≤ client.now)
    (draw : Draw) (ended : client.taskAfter started draw = .ended (.panicked false)) :
    Instant.limit ≤ client.now + client.config.longestWait := by
  have short := (Config.waitNanos_bounds sound draw).2
  rw [taskAfter_eq, Config.wake?_eq sound] at ended
  by_cases reaches : started + client.config.waitNanos draw < Instant.limit
  · rw [if_pos reaches, restOf] at ended
    split at ended <;> simp at ended
  · have sum : started + client.config.waitNanos draw ≤ client.now + client.config.longestWait :=
      Nat.add_le_add begun short
    exact Nat.le_trans (Nat.le_of_not_lt reaches) sum

/-- No step ends the task for want of an end of its wait while the clock reaches far enough. -/
theorem endures_step (sound : client.config.validate = .ok ()) (punctual : Punctual client)
    (stepped : client.step action = some next) (endures : Endures client) : Endures next := by
  have past := now_le_step stepped
  cases transition_of_step stepped with
  | answers result draw started cutOff fetching | cutsOff draw started cutOff fetching late =>
    exact endures_afterPoll sound (punctual started cutOff fetching).2.1 draw
  | starts | exits | begins | overflows | panics => exact endures_of_task (by simp [beginPoll])
  | dropsRunning =>
    refine fun ended => ?_
    cases task : client.task <;> simp [task, abortTask] at ended
    exact endures (by rw [task, ended])
  | elapses nanos => exact fun ended => Nat.le_trans (endures ended) (Nat.add_le_add_right past _)
  | calls | refuses | startFails | startsAgain | cancels | stopsIdle | stopsAgain | drains | leavesDrain | leavesQueue
  | publishes | awaits | notices | givesUp | dropsOther => exact endures

/-- A client that is run ends its task for want of an end of its wait only if the clock does not reach far enough. -/
theorem endures_run {timerStep : Nat} (sound : config.validate = .ok ())
    (ran : (initial config timerStep).run actions = some client) : Endures client := by
  have kept := run_keeps
    (fun client => client.config.validate = .ok () ∧ Punctual client ∧ Endures client) (fun _ => True)
    (fun _ stepped held => ⟨(config_step stepped).1 ▸ held.1, punctual_step stepped held.2.1,
      endures_step held.1 held.2.1 stepped held.2.2⟩)
    (fun _ _ => trivial) ran
    ⟨sound, punctual_initial config timerStep, endures_of_task (by simp [initial])⟩
  exact kept.2.2

end Client

/-- How the end of a wait depends on the reach of the clock. -/
structure WakesWithin (config : Config) : Prop where
  /-- The factor of a wait is a double from zero to two. -/
  factor : ∀ draw, 0.0 ≤ spreadFactor config.jitterFraction draw ∧ spreadFactor config.jitterFraction draw ≤ 2.0
  /-- The end of a wait is the beginning of the poll and the wait together, and it can be named exactly if it lies
  before the first instant that the clock cannot name. -/
  wake : ∀ (started : Instant) draw, config.wake? started draw =
    if started + config.waitNanos draw < Instant.limit then some (started + config.waitNanos draw) else none
  /-- Every draw has an end of its wait exactly if the clock reaches the longest wait ahead. -/
  always : ∀ started : Instant, (∀ draw, ∃ wake, config.wake? started draw = some wake) ↔
    started + config.longestWait < Instant.limit
  /-- No draw has one exactly if the clock does not even reach the shortest wait ahead. -/
  never : ∀ started : Instant, (∀ draw, config.wake? started draw = none) ↔
    Instant.limit ≤ started + config.shortestWait
  /-- At the end of every poll of a client that leaves a sequence for the next snapshot the task sleeps until the end
  of its wait, or leaves its loop if it has been told to stop, or ends by a panic if there is no end of its wait. -/
  rests : ∀ timerStep actions client next draw, (Client.initial config timerStep).run actions = some client →
    (client.step (.cutOff draw) = some next ∨ ∃ result,
      client.sequenceAfter? (client.outcome result) ≠ none ∧ client.step (.answer result draw) = some next) →
    ∃ started cutOff, client.task = .fetching started cutOff ∧ started ≤ client.now ∧
      next.task = client.restOf (config.wake? started draw)
  /-- The task of a client has ended by such a panic only if the clock does not reach the longest wait ahead. -/
  endures : ∀ timerStep actions client, (Client.initial config timerStep).run actions = some client →
    client.task = .ended (.panicked false) → Instant.limit ≤ client.now + config.longestWait

/-- With a sound configuration nothing but the reach of the clock keeps a task from its sleep. -/
theorem wakesWithin_of_sound (config : Config) (sound : config.validate = .ok ()) : WakesWithin config where
  factor draw := by
    obtain ⟨_, _, _, inRange⟩ := Config.validate_eq_ok_iff.mp sound
    obtain ⟨finite, low, high⟩ := spreadFactor_bounds inRange draw
    rw [float_le_iff (by decide +kernel) finite, float_le_iff finite (by decide +kernel), valueOf_zero, valueOf_two]
    exact ⟨low, high⟩
  wake := Config.wake?_eq sound
  always := Config.wakes_iff sound
  never := Config.never_wakes_iff sound
  rests timerStep actions client next draw ran ends := by
    have same := (Client.config_run ran).1
    have punctual := Client.punctual_run ran
    obtain ⟨started, cutOff, fetching, left⟩ := Client.exists_taskAfter ends
    refine ⟨started, cutOff, fetching, (punctual started cutOff fetching).2.1, ?_⟩
    rw [left, Client.taskAfter_eq, same]
  endures timerStep actions client ran ended := by
    have endures := Client.endures_run sound ran ended
    rw [(Client.config_run ran).1] at endures
    exact endures

/-- An interval of just below half the reach of the clock, with the whole of it as the spread. -/
def halfReach : Config := ⟨⟨4611686018427387903999999999, by decide⟩, 1.0, .ofMillis 50⟩

/-- An interval of a hundred seconds less than the reach of the clock, hardly spread. -/
def nearReach : Config := ⟨⟨9223372036854775708000000000, by decide⟩, 1e-17, .ofMillis 50⟩

/-- Just after the start of the clock every wait of the shorter interval has an end. The seconds of the longer one are
rounded to those of the whole reach of the clock, and all its factors to one, so none of its waits has an end. -/
theorem wakesWithin_of_sound_halfReach :
    halfReach.validate = .ok () ∧ halfReach.longestWait = 9223372036854774784000000000 ∧
      (∀ draw, ∃ wake, halfReach.wake? 1 draw = some wake) ∧
      halfReach.wake? 1 .half = some 4611686018427387904000000001 ∧
      nearReach.validate = .ok () ∧ nearReach.pollInterval.nanos + 5000000000 < Instant.limit ∧
      ∀ draw, nearReach.wake? 5000000000 draw = none := by
  have sound : halfReach.validate = .ok () :=
    Config.validate_eq_ok_iff.mpr ⟨by decide, by decide, by decide, by decide +kernel⟩
  have sound' : nearReach.validate = .ok () :=
    Config.validate_eq_ok_iff.mpr ⟨by decide, by decide, by decide, by decide +kernel⟩
  have wakes := wakesWithin_of_sound halfReach sound
  have never := (wakesWithin_of_sound nearReach sound').never 5000000000
  refine ⟨sound, by decide +kernel, (wakes.always 1).mpr (by decide +kernel), ?_, sound', by decide,
    never.mpr (by decide +kernel)⟩
  rw [wakes.wake]
  decide +kernel

/-- The longest interval of all, without a spread. -/
def longestInterval : Config := ⟨⟨18446744073709551615999999999, by decide⟩, 0.0, .ofMillis 50⟩

/-- The first poll of a source that answers at once. -/
def promptPoll : List Action :=
  [.call 0 .start, .takeLock, .resume, .answer (.ok ⟨.empty, some "v1"⟩) .half]

/-- The longest interval is sound, and yet the first poll ends the task: the wait after it has no end that could be
named. Readers go on seeing the client running. -/
theorem longest_interval_ends_polling :
    longestInterval.validate = .ok () ∧ longestInterval.wake? 0 .half = none ∧
      ∃ client, (Client.initial longestInterval 1000000).run promptPoll = some client ∧
        client.snapshot.version = some "v1" ∧ client.task = .ended (.panicked false) ∧ client.isRunning = true := by
  have sound : longestInterval.validate = .ok () :=
    Config.validate_eq_ok_iff.mpr ⟨by decide, by decide, by decide, by decide +kernel⟩
  refine ⟨sound, by decide +kernel, _, rfl, ?_, ?_, ?_⟩
  · decide +kernel
  · decide +kernel
  · decide +kernel

end LiveFlags
