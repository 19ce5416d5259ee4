import LiveFlags.Proofs.Client.Lifecycle

/-!
# Sequences are given out in order

The next snapshot of a poll task has a sequence that is no higher than what others have published and the
number of fetches together (`Within`). As long as nobody else publishes it is higher than the visible one
(`Numbered`), and follows it (`InSequence`). So every well-formed set that a source then brings becomes
visible (`version_of_valid`), until the task panics for want of a sequence after the last one.
-/
namespace LiveFlags

/-- The greatest sequence. -/
def greatestSequence : Nat := 18446744073709551615

/-- Whoever publishes with the action, the sequence is no higher than the bound. -/
def Action.PublishesBelow (bound : Nat) : Action → Prop
  | .publish snapshot => snapshot.sequence.toNat ≤ bound
  | _ => True

namespace Client

/-- The next sequence is no higher than the number of fetches on top of what others have published. -/
structure Within (bound : Nat) (client : Client) : Prop where
  /-- Before there is a task only others have published. -/
  visible : client.task = .absent → client.store.current.sequence.toNat ≤ bound
  /-- A task uses up one sequence for a fetch, at most. -/
  next : client.task ≠ .absent →
    client.nextSequence.toNat + client.task.openFetches ≤ bound + client.fetches.size + 1

/-- The next sequence lies between the visible one and the number of fetches. -/
structure Numbered (client : Client) : Prop extends Within 0 client where
  /-- Before the first start nothing has been published. -/
  unpublished : client.guarded = .idle → client.store = .initial
  /-- The next sequence of a task is higher than the visible one. -/
  above : client.task ≠ .absent → client.store.current.sequence.toNat < client.nextSequence.toNat

variable {client next : Client} {action : Action} {sequence following : UInt64}

/-- The sequence after a given one is greater by one. -/
theorem toNat_of_successor? (counts : successor? sequence = some following) :
    sequence.toNat < greatestSequence ∧ following.toNat = sequence.toNat + 1 := by
  unfold successor? at counts
  split at counts
  · contradiction
  · rename_i other
    obtain rfl := Option.some.inj counts
    have room : sequence.toNat < greatestSequence := by
      have bound := sequence.toNat_lt
      have apart : sequence.toNat ≠ greatestSequence := fun same => other (UInt64.toNat_inj.mp same)
      unfold greatestSequence at *
      omega
    refine ⟨room, ?_⟩
    rw [UInt64.toNat_add]
    exact Nat.mod_eq_of_lt (Nat.succ_lt_succ room)

/-- A sequence has another one after it exactly if it is not the greatest one. -/
theorem successor?_eq_none_iff : successor? sequence = none ↔ sequence.toNat = greatestSequence := by
  unfold successor?
  constructor
  · intro none
    split at none
    · rename_i last
      rw [last]
      rfl
    · contradiction
  · intro greatest
    exact if_pos (UInt64.toNat_inj.mp greatest)

/-- A sequence below the greatest one has another one after it. -/
theorem exists_successor (room : sequence.toNat < greatestSequence) :
    ∃ following, successor? sequence = some following :=
  Option.ne_none_iff_exists'.mp fun none => Nat.ne_of_lt room (successor?_eq_none_iff.mp none)

/-- Only a snapshot under the greatest sequence leaves none. -/
theorem nextSequence_of_last {outcome : PollOutcome} (last : client.sequenceAfter? outcome = none) :
    client.nextSequence.toNat = greatestSequence := by
  cases outcome with
  | failure failure => contradiction
  | success snapshot => exact successor?_eq_none_iff.mp last

theorem within_initial (bound : Nat) (config : Config) (timerStep : Nat) :
    Within bound (initial config timerStep) :=
  ⟨fun _ => Nat.zero_le bound, fun present => absurd rfl present⟩

/-- Every other task in the place of one that is there leaves the bound as it is. -/
theorem Within.of_open {bound : Nat} (within : Within bound client) (present : client.task ≠ .absent)
    {task : Task} (present' : task ≠ .absent) (same : task.openFetches = client.task.openFetches)
    (cancelled : Bool) (log : Array Event) :
    Within bound { client with task := task, cancelled := cancelled, log := log } := by
  refine ⟨fun absent => absurd absent present', fun _ => ?_⟩
  have few := within.next present
  rw [← same] at few
  exact few

/-- A poll that comes to an outcome uses up a sequence or none. -/
theorem within_finish {bound : Nat} {started cutOff : Instant} (within : Within bound client)
    (fetching : client.task = .fetching started cutOff) (outcome : PollOutcome) (draw : Draw)
    (counts : client.sequenceAfter? outcome = some sequence) :
    Within bound { client.afterPoll outcome started draw with nextSequence := sequence } := by
  have left := client.isOver_taskAfter started draw
  refine ⟨fun absent => absurd absent left.1, fun _ => ?_⟩
  have room := within.next (by simp [fetching])
  have waits : client.task.openFetches = 1 := by simp [fetching, Task.openFetches]
  have closed := client.openFetches_taskAfter started draw
  cases outcome with
  | failure failure =>
    obtain rfl := Option.some.inj counts
    simp only [closed]
    omega
  | success snapshot =>
    obtain ⟨_, following⟩ := toNat_of_successor? counts
    simp only [closed, following]
    omega

/-- A store that is offered a snapshot shows no higher sequence than that of the snapshot or its own. -/
theorem toNat_publish_le {store : Store} {snapshot : Snapshot} {bound : Nat}
    (shown : store.current.sequence.toNat ≤ bound) (below : snapshot.sequence.toNat ≤ bound) :
    (store.publish snapshot).current.sequence.toNat ≤ bound := by
  unfold Store.publish
  split
  · exact below
  · exact shown

/-- Every step keeps the next sequence within the bound. -/
theorem within_step {bound : Nat} (orderly : Orderly client) (below : action.PublishesBelow bound)
    (stepped : client.step action = some next) (within : Within bound client) : Within bound next := by
  have unchanged := within
  obtain ⟨visible, few⟩ := within
  cases transition_of_step stepped with
  | starts _ _ _ _ idle sequence counts =>
    obtain ⟨absent, _, _, nothing⟩ := orderly.idle idle
    obtain ⟨_, following⟩ := toNat_of_successor? counts
    have low := visible absent
    refine ⟨by simp, fun _ => ?_⟩
    simp only [following, nothing, Task.openFetches, Array.size_empty]
    omega
  | exits woken =>
    obtain ⟨present, _, closed⟩ := rested_of_woken woken
    exact unchanged.of_open present (by simp) (by rw [closed]; rfl) _ _
  | begins due =>
    obtain ⟨present, _, closed⟩ := rested_of_due due
    refine ⟨by simp [beginPoll], fun _ => ?_⟩
    have room := few present
    simp only [beginPoll, Array.size_push, Task.openFetches]
    omega
  | answers result draw started cutOff fetching sequence counts =>
    exact within_finish unchanged fetching _ draw counts
  | cutsOff draw started cutOff fetching late =>
    exact within_finish unchanged fetching (.failure .timeout) draw rfl
  | overflows _ _ started cutOff fetching | panics started cutOff fetching =>
    exact unchanged.of_open (by simp [fetching]) (by simp) (by simp [fetching, Task.openFetches]) _ _
  | publishes snapshot => exact ⟨fun absent => toNat_publish_le (visible absent) below, few⟩
  | dropsRunning still running =>
    have present := (orderly.running running).1
    exact unchanged.of_open present (isOver_abortTask present).1 (openFetches_abortTask client.task) _ _
  | calls | refuses | startFails | startsAgain | cancels | stopsIdle | stopsAgain | drains | leavesDrain
  | leavesQueue | awaits | notices | givesUp | elapses | dropsOther => exact ⟨visible, few⟩

/-- A poll does not run out of sequences while they are fewer than the last one. -/
theorem counts_of_within {bound : Nat} {started cutOff : Instant} (within : Within bound client)
    (fetching : client.task = .fetching started cutOff) (few : bound + client.fetches.size < greatestSequence)
    (outcome : PollOutcome) : client.sequenceAfter? outcome ≠ none := by
  cases outcome with
  | failure failure => exact Option.some_ne_none _
  | success snapshot =>
    intro last
    have greatest := successor?_eq_none_iff.mp last
    have room := within.next (by simp [fetching])
    simp only [fetching, Task.openFetches] at room
    omega

theorem numbered_initial (config : Config) (timerStep : Nat) : Numbered (initial config timerStep) where
  toWithin := within_initial 0 config timerStep
  unpublished _ := rfl
  above present := absurd rfl present

/-- The log has no part in the numbers. -/
theorem Numbered.logging (numbered : Numbered client) (events : List Event) :
    Numbered (client.logging events) :=
  ⟨⟨numbered.visible, numbered.next⟩, numbered.unpublished, numbered.above⟩

/-- A snapshot under the next sequence is taken. -/
theorem Numbered.accepts (numbered : Numbered client) (present : client.task ≠ .absent)
    (set : FlagSet) (wall : Timestamp) :
    client.store.accepts (.ofSet set client.nextSequence wall) = true := by
  have higher := numbered.above present
  simpa [Store.accepts, Snapshot.ofSet, UInt64.lt_iff_toNat_lt] using higher

/-- What a source brings becomes a snapshot only if it is well formed, and under the next sequence. -/
theorem success_of_outcome {result : Except FetchError FlagSet} {snapshot : Snapshot}
    (came : client.outcome result = .success snapshot) :
    ∃ set, result = .ok set ∧ set.validate = .ok () ∧
      snapshot = .ofSet set client.nextSequence client.wall := by
  unfold outcome at came
  split at came
  · contradiction
  · rename_i set
    split at came
    · contradiction
    · rename_i valid
      exact ⟨set, rfl, valid, (PollOutcome.success.inj came).symm⟩

/-- A poll that comes to an outcome leaves the next sequence above the visible one. -/
theorem above_finish (higher : client.store.current.sequence.toNat < client.nextSequence.toNat)
    (outcome : PollOutcome) (counts : client.sequenceAfter? outcome = some sequence)
    (next : ∀ snapshot, outcome = .success snapshot → snapshot.sequence = client.nextSequence) :
    (client.storeAfter outcome).current.sequence.toNat < sequence.toNat := by
  cases outcome with
  | failure failure =>
    obtain rfl := Option.some.inj counts
    exact higher
  | success snapshot =>
    obtain ⟨_, following⟩ := toNat_of_successor? counts
    have offered := next snapshot rfl
    rw [following, Nat.lt_succ_iff]
    exact toNat_publish_le (Nat.le_of_lt higher) (Nat.le_of_eq (congrArg UInt64.toNat offered))

/-- Every step keeps the numbers in order, as long as nobody else publishes. -/
theorem numbered_step (orderly : Orderly client) (alone : ∀ snapshot, action ≠ .publish snapshot)
    (stepped : client.step action = some next) (numbered : Numbered client) : Numbered next := by
  have below : action.PublishesBelow 0 := by
    cases action with
    | publish snapshot => exact absurd rfl (alone snapshot)
    | _ => trivial
  obtain ⟨within, unpublished, above⟩ := numbered
  refine ⟨within_step orderly below stepped within, ?_, ?_⟩
  · cases transition_of_step stepped with
    | starts | cancels | stopsIdle => simp
    | answers _ _ _ _ fetching | cutsOff _ _ _ fetching =>
      exact fun idle => by simp [(orderly.idle idle).1] at fetching
    | publishes snapshot => exact absurd rfl (alone snapshot)
    | _ => exact unpublished
  · cases transition_of_step stepped with
    | starts _ _ _ _ _ sequence counts =>
      intro _
      simp only [(toNat_of_successor? counts).2]
      exact Nat.lt_succ_self _
    | exits woken => exact fun _ => above (rested_of_woken woken).1
    | begins due => exact fun _ => above (rested_of_due due).1
    | answers result draw started cutOff fetching sequence counts =>
      refine fun _ => above_finish (above (by simp [fetching])) _ counts fun snapshot came => ?_
      obtain ⟨set, _, _, rfl⟩ := success_of_outcome came
      rfl
    | cutsOff draw started cutOff fetching =>
      exact fun _ => above_finish (above (by simp [fetching])) (.failure .timeout) rfl (by simp)
    | overflows _ _ _ _ fetching | panics _ _ fetching => exact fun _ => above (by simp [fetching])
    | publishes snapshot => exact absurd rfl (alone snapshot)
    | dropsRunning still running => exact fun _ => above (orderly.running running).1
    | _ => exact above

/-- The next snapshot of the task has the sequence after the visible one. -/
def InSequence (client : Client) : Prop :=
  client.task ≠ .absent → client.nextSequence.toNat = client.store.current.sequence.toNat + 1

theorem inSequence_initial (config : Config) (timerStep : Nat) : InSequence (initial config timerStep) :=
  fun present => absurd rfl present

/-- The store takes the next snapshot of the task. -/
theorem InSequence.accepts (ordered : InSequence client) (present : client.task ≠ .absent)
    (set : FlagSet) (wall : Timestamp) :
    client.store.accepts (.ofSet set client.nextSequence wall) = true := by
  have follows := ordered present
  have higher : client.store.current.sequence.toNat < client.nextSequence.toNat := by omega
  simpa [Store.accepts, Snapshot.ofSet, UInt64.lt_iff_toNat_lt] using higher

/-- A poll that comes to an outcome leaves the next snapshot in sequence. -/
theorem inSequence_finish {started cutOff : Instant} (ordered : InSequence client)
    (fetching : client.task = .fetching started cutOff) (outcome : PollOutcome) (draw : Draw)
    (counts : client.sequenceAfter? outcome = some sequence)
    (next : ∀ snapshot, outcome = .success snapshot →
      ∃ set, snapshot = .ofSet set client.nextSequence client.wall) :
    InSequence { client.afterPoll outcome started draw with nextSequence := sequence } := by
  have present : client.task ≠ .absent := by simp [fetching]
  intro _
  cases outcome with
  | failure failure =>
    obtain rfl := Option.some.inj counts
    exact ordered present
  | success snapshot =>
    obtain ⟨set, rfl⟩ := next snapshot rfl
    simp only [storeAfter]
    rw [Store.publish_of_accepts (ordered.accepts present set client.wall)]
    exact (toNat_of_successor? counts).2

/-- Every step leaves the next snapshot in sequence, as long as nobody else publishes. -/
theorem inSequence_step (alone : ∀ snapshot, action ≠ .publish snapshot)
    (stepped : client.step action = some next) (ordered : InSequence client) : InSequence next := by
  cases transition_of_step stepped with
  | starts _ _ _ _ _ sequence counts => exact fun _ => (toNat_of_successor? counts).2
  | exits woken told => exact fun _ => ordered (rested_of_woken woken).1
  | begins due untold => exact fun _ => ordered (rested_of_due due).1
  | answers result draw started cutOff fetching sequence counts =>
    refine inSequence_finish ordered fetching _ draw counts fun snapshot came => ?_
    obtain ⟨set, _, _, same⟩ := success_of_outcome came
    exact ⟨set, same⟩
  | cutsOff draw started cutOff fetching late =>
    exact inSequence_finish ordered fetching (.failure .timeout) draw rfl (by simp)
  | overflows _ _ started cutOff fetching | panics started cutOff fetching =>
    exact fun _ => ordered (by simp [fetching])
  | publishes snapshot => exact absurd rfl (alone snapshot)
  | dropsRunning still running =>
    intro present
    refine ordered fun absent => present ?_
    rw [absent, abortTask]
  | calls | refuses | startFails | startsAgain | cancels | stopsIdle | stopsAgain | drains | leavesDrain
  | leavesQueue | awaits | notices | givesUp | elapses | dropsOther => exact ordered

/-- A well-formed set that the source brings becomes visible, as long as the sequences last. -/
theorem version_of_valid {set : FlagSet} {draw : Draw} (numbered : Numbered client)
    (few : client.fetches.size < greatestSequence)
    (stepped : client.step (.answer (.ok set) draw) = some next) (valid : set.validate = .ok ()) :
    next.store.current.version = set.version := by
  have came : client.outcome (.ok set) = .success (.ofSet set client.nextSequence client.wall) := by
    simp [outcome, valid]
  cases transition_of_step stepped with
  | answers result draw started cutOff fetching =>
    have accepted := numbered.accepts (by simp [fetching]) set client.wall
    simp only [came, storeAfter, Store.publish_of_accepts accepted]
    rfl
  | overflows result draw started cutOff fetching last =>
    exact absurd last (counts_of_within numbered.toWithin fetching (by omega) _)

/-- An error of the source changes nothing that is visible. -/
theorem store_of_error {error : FetchError} {draw : Draw}
    (stepped : client.step (.answer (.error error) draw) = some next) : next.store = client.store := by
  cases transition_of_step stepped with
  | answers | overflows => rfl

end Client

end LiveFlags
