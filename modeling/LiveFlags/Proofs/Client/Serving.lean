import LiveFlags.Proofs.Client.Numbering
import LiveFlags.Proofs.Client.Source

/-!
# The last good flags are served

A poll is good if its source answers in time with a set that is well formed. `goodSets` reads the sets of
the good polls off the source and the beginnings of the fetches alone. The main statement
(`serves_last_good_poll`) ties the polling machine to it: at every instant the visible snapshot is that of
the last good poll, its sequence is the number of good polls, and every fetch is told the version of the
snapshot that is visible when it begins. Whatever else happens leaves the store as it is.

Sequences have 64 bits. A well-formed set that would use up the last one ends its task with a panic, so
its poll never comes to an outcome and counts for nothing.
-/
namespace LiveFlags

/-- The set of a poll, if it is good: the source answers with a well-formed set by the deadline. -/
def goodSet? (deadline : Instant → Instant) (call : FetchCall) : Behaviour → Option FlagSet
  | .answers delay (.ok set) =>
    if call.began + delay ≤ deadline call.began ∧ set.validate.isOk = true then some set else none
  | _ => none

/-- The sets of the good polls, in order. -/
def goodSets (source : FlagSource) (deadline : Instant → Instant) (calls : List FetchCall) : List FlagSet :=
  calls.zipIdx.filterMap fun (call, index) => goodSet? deadline call (source index)

/-- One poll more is one good set more, if the poll is good. -/
theorem goodSets_concat (source : FlagSource) (deadline : Instant → Instant) (calls : List FetchCall)
    (call : FetchCall) : goodSets source deadline (calls ++ [call]) =
      goodSets source deadline calls ++ (goodSet? deadline call (source calls.length)).toList := by
  unfold goodSets
  rw [List.zipIdx_append, List.filterMap_append]
  simp only [Nat.zero_add, List.zipIdx_cons, List.zipIdx_nil]
  cases good : goodSet? deadline call (source calls.length) with
  | none => simp [good]
  | some set => simp [good]

/-- The store shows the last of the sets, under their number. -/
structure Shows (store : Store) (goods : List FlagSet) : Prop where
  /-- Before the first good poll nothing has been published. -/
  none : goods = [] → store = .initial
  /-- The flags and the version are those of the last set. -/
  last : ∀ set, goods.getLast? = some set →
    store.current.flags = set.flags ∧ store.current.version = set.version
  /-- The sequence is the number of sets. -/
  count : store.current.sequence.toNat = goods.length

/-- The version of a store that shows sets is that of the last one. -/
theorem Shows.version {store : Store} {goods : List FlagSet} (shows : Shows store goods) :
    store.current.version = goods.getLast?.bind (·.version) := by
  cases found : goods.getLast? with
  | some set => exact (shows.last set found).2
  | none =>
    rw [shows.none (List.getLast?_eq_none_iff.mp found)]
    rfl

/-- Offered the set of one good poll more under the next sequence, the store shows it. -/
theorem Shows.publish {store : Store} {goods : List FlagSet} (shows : Shows store goods) (set : FlagSet)
    (wall : Timestamp) {sequence : UInt64} (next : sequence.toNat = goods.length + 1) :
    Shows (store.publish (.ofSet set sequence wall)) (goods ++ [set]) := by
  have higher : store.current.sequence.toNat < sequence.toNat := by
    rw [shows.count, next]
    exact Nat.lt_succ_self _
  have accepted : store.accepts (.ofSet set sequence wall) = true := by
    simpa [Store.accepts, Snapshot.ofSet, UInt64.lt_iff_toNat_lt] using higher
  rw [Store.publish_of_accepts accepted]
  refine ⟨by simp, ?_, ?_⟩
  · intro last found
    rw [List.getLast?_concat] at found
    obtain rfl := Option.some.inj found
    exact ⟨rfl, rfl⟩
  · rw [List.length_append]
    exact next

namespace Client

/-- The polls that have come to an outcome, by the beginnings of their fetches. -/
def completed (client : Client) : List FetchCall :=
  client.fetches.toList.take (client.fetches.size - client.task.openFetches)

/-- The sets of the good polls so far. -/
def goods (source : FlagSource) (client : Client) : List FlagSet :=
  goodSets source client.deadline client.completed

/-- The outcome of a poll is the one its source has brought about: the snapshot of its set if it is good,
and a failure otherwise. -/
def Fits (client : Client) (call : FetchCall) (behaviour : Behaviour) : PollOutcome → Prop
  | .success snapshot => ∃ set, goodSet? client.deadline call behaviour = some set ∧
    snapshot = .ofSet set client.nextSequence client.wall
  | .failure _ => goodSet? client.deadline call behaviour = none

/-- Everything readers and the source see of the polls agrees with the good polls so far. -/
structure Serving (source : FlagSource) (client : Client) : Prop where
  /-- The store shows the last good set. -/
  visible : Shows client.store (client.goods source)
  /-- The next snapshot has the next sequence. -/
  sequence : client.guarded = .idle ∨
    client.task = .absent ∨ client.nextSequence.toNat = (client.goods source).length + 1
  /-- The fetch in flight is the last one, and its source is not late. -/
  flight : ∀ started cutOff, client.task = .fetching started cutOff →
      (∀ delay, (client.behaviour source).delay? = some delay → client.now ≤ started + delay) ∧
      ∃ earlier call, client.fetches.toList = earlier ++ [call] ∧ call.began = started
  /-- Every fetch was told the version of the last good set before it. -/
  told : ∀ index call, client.fetches[index]? = some call →
    call.context.currentVersion =
      (goodSets source client.deadline (client.fetches.toList.take index)).getLast?.bind (·.version)

/-- A client that has not done anything shows the empty snapshot. -/
theorem serving_initial (source : FlagSource) (config : Config) (timerStep : Nat) :
    Serving source (initial config timerStep) where
  visible := ⟨fun _ => rfl, fun set found => by simp [goods, completed, initial, goodSets] at found,
    rfl⟩
  sequence := .inl rfl
  flight _ _ fetching := by cases fetching
  told _ _ found := by simp [initial] at found

variable {source : FlagSource} {client next : Client} {action : Action} {actions : List Action}

/-- While a fetch is in flight every earlier poll has come to an outcome, and no other. -/
theorem completed_of_fetching {started cutOff : Instant} {earlier : List FetchCall} {call : FetchCall}
    (fetching : client.task = .fetching started cutOff) (calls : client.fetches.toList = earlier ++ [call]) :
    client.completed = earlier ∧ client.fetches.size = earlier.length + 1 := by
  have size : client.fetches.size = earlier.length + 1 := by
    rw [← Array.length_toList, calls]
    simp
  refine ⟨?_, size⟩
  unfold completed
  rw [calls, size, fetching]
  simp [Task.openFetches]

/-- When no fetch is open all polls have come to an outcome. -/
theorem completed_of_closed (closed : client.task.openFetches = 0) :
    client.completed = client.fetches.toList := by
  unfold completed
  rw [closed, Nat.sub_zero, ← Array.length_toList, List.take_length]

/-- A poll that begins is told the version of the last good set before it. -/
theorem serving_begin (serving : Serving source client) (closed : client.task.openFetches = 0)
    (sequence : client.nextSequence.toNat = (client.goods source).length + 1) :
    Serving source client.beginPoll := by
  have before : client.beginPoll.completed = client.completed := by
    rw [completed_of_closed closed]
    simp [completed, beginPoll, Task.openFetches]
  have goods : client.beginPoll.goods source = client.goods source := by
    unfold Client.goods
    rw [before]
    rfl
  refine ⟨?_, ?_, ?_, ?_⟩
  · rw [goods]
    exact serving.visible
  · rw [goods]
    exact .inr (.inr sequence)
  · intro started cutOff fetching
    obtain ⟨rfl, rfl⟩ := Task.fetching.inj fetching
    exact ⟨fun delay _ => Nat.le_add_right _ delay, client.fetches.toList, _, Array.toList_push, rfl⟩
  · intro index call found
    simp only [beginPoll, Array.getElem?_push] at found
    have deadline : client.beginPoll.deadline = client.deadline := rfl
    have calls : client.beginPoll.fetches.toList.take index = client.fetches.toList.take index := by
      have inside : index ≤ client.fetches.toList.length := by
        rw [Array.length_toList]
        split at found
        · omega
        · exact Nat.le_of_lt (Array.getElem?_eq_some_iff.mp found).1
      simp only [beginPoll, Array.toList_push]
      exact List.take_append_of_le_length inside
    rw [calls, deadline]
    split at found
    · rename_i last
      obtain rfl := Option.some.inj found
      have all : client.fetches.toList.take index = client.completed := by
        rw [completed_of_closed closed, last, ← Array.length_toList, List.take_length]
      rw [all]
      exact serving.visible.version
    · exact serving.told index call found

/-- A poll that comes to an outcome adds its set to the good ones if it is good. -/
theorem goods_afterPoll (source : FlagSource) {started cutOff : Instant}
    {earlier : List FetchCall} {call : FetchCall}
    (fetching : client.task = .fetching started cutOff) (calls : client.fetches.toList = earlier ++ [call])
    (outcome : PollOutcome) (draw : Draw) (following : UInt64) :
    Client.goods source { client.afterPoll outcome started draw with nextSequence := following } =
      client.goods source ++ (goodSet? client.deadline call (client.behaviour source)).toList := by
  obtain ⟨completed, size⟩ := completed_of_fetching fetching calls
  unfold Client.goods
  rw [completed_of_closed (openFetches_taskAfter client started draw), completed]
  unfold behaviour
  rw [size, Nat.add_sub_cancel, ← goodSets_concat, ← calls]
  rfl

/-- A poll that comes to an outcome shows its set if it is good and changes nothing otherwise. -/
theorem serving_finish {started cutOff : Instant} (serving : Serving source client)
    (fetching : client.task = .fetching started cutOff) (outcome : PollOutcome) (draw : Draw)
    (numbered : client.nextSequence.toNat = (client.goods source).length + 1)
    {following : UInt64} (counts : client.sequenceAfter? outcome = some following)
    (fits : ∀ call, call.began = started → client.Fits call (client.behaviour source) outcome) :
    Serving source { client.afterPoll outcome started draw with nextSequence := following } := by
  obtain ⟨_, earlier, call, calls, began⟩ := serving.flight started cutOff fetching
  have calm : ∀ left right, client.taskAfter started draw ≠ .fetching left right :=
    taskAfter_ne_fetching client started draw
  have goods := goods_afterPoll source fetching calls outcome draw following
  have fits := fits call began
  unfold Fits at fits
  cases outcome with
  | success snapshot =>
    obtain ⟨set, good, rfl⟩ := fits
    rw [good] at goods
    refine ⟨?_, ?_, fun left right fetched => absurd fetched (calm left right), serving.told⟩
    · rw [goods]
      exact serving.visible.publish set client.wall numbered
    · rw [goods]
      refine .inr (.inr ?_)
      rw [(toNat_of_successor? counts).2, numbered]
      simp
  | failure failure =>
    obtain rfl := Option.some.inj counts
    rw [fits] at goods
    simp only [Option.toList_none, List.append_nil] at goods
    refine ⟨?_, ?_, fun left right fetched => absurd fetched (calm left right), serving.told⟩
    · rw [goods]
      exact serving.visible
    · rw [goods]
      exact .inr (.inr numbered)

/-- Once there is a task its next snapshot has the next sequence. -/
theorem Serving.numbered (serving : Serving source client) (orderly : Orderly client)
    (present : client.task ≠ .absent) :
    client.nextSequence.toNat = (client.goods source).length + 1 := by
  rcases serving.sequence with idle | absent | numbered
  · exact absurd (orderly.idle idle).1 present
  · exact absurd absent present
  · exact numbered

/-- Another task that does not wait for a fetch, with as many open fetches, shows nothing new. -/
theorem Serving.of_open (task : Task) (serving : Serving source client)
    (numbered : client.nextSequence.toNat = (client.goods source).length + 1)
    (same : task.openFetches = client.task.openFetches)
    (calm : ∀ started cutOff, task ≠ .fetching started cutOff) (cancelled : Bool) (log : Array Event) :
    Serving source { client with task := task, cancelled := cancelled, log := log } := by
  have completed : Client.completed { client with task := task, cancelled := cancelled, log := log } =
      client.completed := by
    unfold Client.completed
    rw [same]
  have goods : Client.goods source { client with task := task, cancelled := cancelled, log := log } =
      client.goods source := by
    unfold Client.goods
    rw [completed]
    rfl
  refine ⟨?_, ?_, fun started cutOff fetching => absurd fetching (calm started cutOff), serving.told⟩
  · rw [goods]
    exact serving.visible
  · rw [goods]
    exact .inr (.inr numbered)

/-- An answer that the source gives in time makes its poll good if its set is well formed. -/
theorem goodSet?_answers {call : FetchCall} {started cutOff : Instant} {delay : Nat}
    (result : Except FetchError FlagSet) (began : call.began = started)
    (cut : cutOff = client.deadline started) (inTime : started + delay ≤ cutOff) :
    client.Fits call (.answers delay result) (client.outcome result) := by
  cases result with
  | error error => rfl
  | ok set =>
    have soon : call.began + delay ≤ client.deadline call.began := by
      rw [began, ← cut]
      exact inTime
    cases checked : set.validate with
    | error error => simp [outcome, checked, Fits, goodSet?, Except.isOk, Except.toBool]
    | ok _ => simp [outcome, checked, Fits, goodSet?, soon, Except.isOk, Except.toBool]

/-- A poll whose source is not done when it is cut off is not good. -/
theorem goodSet?_late {call : FetchCall} {started cutOff : Instant} {behaviour : Behaviour}
    (began : call.began = started) (cut : cutOff = client.deadline started) (late : cutOff ≤ client.now)
    (waits : ∀ delay, behaviour.delay? = some delay → client.now < started + delay) :
    goodSet? client.deadline call behaviour = none := by
  cases behaviour with
  | panics delay => rfl
  | hangs => rfl
  | answers delay result =>
    cases result with
    | error error => rfl
    | ok set =>
      have passed := waits delay rfl
      have past : ¬ call.began + delay ≤ client.deadline call.began := by
        rw [began, ← cut]
        exact Nat.not_le.mpr (Nat.lt_of_le_of_lt late passed)
      simp [goodSet?, past]

/-- Every step of the client and its source keeps what is served, as long as nobody else publishes. -/
theorem serving_step (orderly : Orderly client) (punctual : Punctual client)
    (allowed : client.Allows source action)
    (alone : ∀ snapshot, action ≠ .publish snapshot) (stepped : client.step action = some next)
    (serving : Serving source client) : Serving source next := by
  have unchanged := serving
  obtain ⟨visible, sequence, flight, told⟩ := serving
  cases transition_of_step stepped with
  | starts caller rest free head idle following counts =>
    obtain ⟨absent, _, _, nothing⟩ := orderly.idle idle
    have goods : client.goods source = [] := by
      simp [Client.goods, Client.completed, nothing, goodSets]
    refine ⟨?_, .inr (.inr ?_), by simp, told⟩
    · simpa [Client.goods, Client.completed, nothing, goodSets] using visible
    · have empty : client.store.current.sequence = 0 := by
        rw [visible.none goods]
        rfl
      rw [(toNat_of_successor? counts).2, empty]
      simp [Client.goods, Client.completed, nothing, goodSets]
  | cancels caller rest free head running =>
    have numbered := unchanged.numbered orderly (orderly.running running).1
    exact ⟨visible, .inr (.inr numbered), flight, told⟩
  | stopsIdle caller rest free head idle =>
    exact ⟨visible, .inr (.inl (orderly.idle idle).1), flight, told⟩
  | exits woken told' =>
    obtain ⟨present, _, closed⟩ := rested_of_woken woken
    exact unchanged.of_open (.ended .finished) (unchanged.numbered orderly present) closed.symm
      (by simp) _ _
  | begins due untold =>
    obtain ⟨present, _, closed⟩ := rested_of_due due
    exact serving_begin unchanged closed (unchanged.numbered orderly present)
  | answers result draw started cutOff fetching following counts =>
    obtain ⟨cut, _, inTime⟩ := punctual started cutOff fetching
    obtain ⟨delay, behaves, now⟩ := allowed started cutOff fetching
    refine serving_finish unchanged fetching _ draw
      (unchanged.numbered orderly (by simp [fetching])) counts fun call began => ?_
    rw [behaves]
    exact goodSet?_answers result began cut (now ▸ inTime)
  | cutsOff draw started cutOff fetching late =>
    have cut := (punctual started cutOff fetching).1
    exact serving_finish unchanged fetching (.failure .timeout) draw
      (unchanged.numbered orderly (by simp [fetching])) rfl
      fun call began => goodSet?_late began cut late (allowed started cutOff fetching)
  | overflows _ _ started cutOff fetching | panics started cutOff fetching =>
    exact unchanged.of_open _ (unchanged.numbered orderly (by simp [fetching]))
      (by simp [fetching, Task.openFetches]) (by simp) _ _
  | dropsRunning still running =>
    exact unchanged.of_open _ (unchanged.numbered orderly (orderly.running running).1)
      (openFetches_abortTask client.task) (abortTask_ne_fetching client.task) _ _
  | elapses nanos soon =>
    refine ⟨visible, sequence, fun started cutOff fetching => ?_, told⟩
    exact ⟨allowed started cutOff fetching, (flight started cutOff fetching).2⟩
  | publishes snapshot => exact absurd rfl (alone snapshot)
  | calls | refuses | startFails | startsAgain | stopsAgain | drains | leavesDrain | leavesQueue | awaits
  | notices | givesUp | dropsOther => exact ⟨visible, sequence, flight, told⟩

/-- Every run of the client and its source keeps what is served, as long as nobody else publishes. -/
theorem serving_run (orderly : Orderly client) (punctual : Punctual client)
    (driven : client.DrivenBy source actions)
    (alone : ∀ snapshot, .publish snapshot ∉ actions) (ran : client.run actions = some next)
    (serving : Serving source client) : Serving source next := by
  induction actions generalizing client with
  | nil =>
    obtain rfl := Option.some.inj ran
    exact serving
  | cons action actions ih =>
    obtain ⟨middle, stepped, ran⟩ := run_cons ran
    obtain ⟨allowed, driven⟩ := driven
    have here : ∀ snapshot, action ≠ .publish snapshot := by
      intro snapshot same
      exact alone snapshot (same ▸ List.mem_cons_self)
    have later : ∀ snapshot, .publish snapshot ∉ actions := by
      intro snapshot member
      exact alone snapshot (List.mem_cons_of_mem _ member)
    exact ih (orderly_step stepped orderly) (punctual_step stepped punctual) (driven middle stepped) later
      ran (serving_step orderly punctual allowed here stepped serving)

/-- A step that brings no good poll to its end leaves the store as it is. -/
theorem store_of_goods (punctual : Punctual client) (serving : Serving source client)
    (allowed : client.Allows source action)
    (alone : ∀ snapshot, action ≠ .publish snapshot) (stepped : client.step action = some next)
    (same : next.goods source = client.goods source) : next.store = client.store := by
  cases transition_of_step stepped with
  | answers result draw started cutOff fetching following =>
    obtain ⟨cut, _, inTime⟩ := punctual started cutOff fetching
    obtain ⟨_, earlier, call, calls, began⟩ := serving.flight started cutOff fetching
    obtain ⟨delay, behaves, now⟩ := allowed started cutOff fetching
    have fits := goodSet?_answers result began cut (now ▸ inTime)
    rw [goods_afterPoll source fetching calls, behaves] at same
    cases came : client.outcome result with
    | failure failure => rfl
    | success snapshot =>
      -- a snapshot comes of a good poll, and that makes one set more
      rw [came] at fits
      obtain ⟨set, good, _⟩ := fits
      simp [good] at same
  | publishes snapshot => exact absurd rfl (alone snapshot)
  | calls | refuses | starts | startFails | startsAgain | cancels | stopsIdle | stopsAgain | drains | leavesDrain
  | leavesQueue | exits | begins | overflows | cutsOff | panics | awaits | notices | givesUp | elapses | dropsRunning
  | dropsOther => rfl

/-- At every instant of every run the visible snapshot has the flags and the version of the last good
poll, under the number of good polls, and before the first one it is the empty snapshot. Every fetch is
told the version that is visible when it begins, no poll outlasts its source or its deadline, and no step
but the end of a good poll changes what readers see. A deadline lies less than one step of the timers
after the end of the time for a fetch. -/
theorem serves_last_good_poll (config : Config) (timerStep : Nat) (source : FlagSource)
    (actions : List Action) (client : Client)
    (ran : (initial config timerStep).run actions = some client)
    (driven : (initial config timerStep).DrivenBy source actions)
    (alone : ∀ snapshot, .publish snapshot ∉ actions) :
    let goods := goodSets source (initial config timerStep).deadline
    (goods client.completed = [] → client.snapshot = .empty) ∧
    (∀ set, (goods client.completed).getLast? = some set →
      client.snapshot.flags = set.flags ∧ client.snapshot.version = set.version) ∧
    client.snapshot.sequence.toNat = (goods client.completed).length ∧
    (∀ index call, client.fetches[index]? = some call →
      call.context.currentVersion =
        (goods (client.fetches.toList.take index)).getLast?.bind (·.version)) ∧
    (∀ started cutOff, client.task = .fetching started cutOff →
      client.now ≤ (initial config timerStep).deadline started ∧
        ∀ delay, (client.behaviour source).delay? = some delay → client.now ≤ started + delay) ∧
    (∀ action next, client.Allows source action → (∀ snapshot, action ≠ .publish snapshot) →
      client.step action = some next → goods next.completed = goods client.completed →
      next.store = client.store) ∧
    ∀ began : Instant, began + config.fetchTimeout.nanos < Instant.limit →
      began + config.fetchTimeout.nanos ≤ (initial config timerStep).deadline began ∧
        (initial config timerStep).deadline began <
          began + config.fetchTimeout.nanos + max timerStep 1 := by
  intro goods
  have punctual := punctual_run ran
  have serving := serving_run (orderly_initial config timerStep) (punctual_initial config timerStep) driven
    alone ran (serving_initial source config timerStep)
  obtain ⟨sameConfig, sameStep⟩ := config_run ran
  have deadline : client.deadline = (initial config timerStep).deadline := deadline_eq sameConfig sameStep
  have good : client.goods source = goods client.completed := by
    unfold Client.goods
    rw [deadline]
  have visible := serving.visible
  rw [good] at visible
  refine ⟨?_, visible.last, visible.count, ?_, ?_, ?_, ?_⟩
  · intro none
    unfold snapshot
    rw [visible.none none]
    rfl
  · intro index call found
    rw [serving.told index call found, deadline]
  · intro started cutOff fetching
    obtain ⟨cut, _, inTime⟩ := punctual started cutOff fetching
    rw [← deadline, ← cut]
    exact ⟨inTime, (serving.flight started cutOff fetching).1⟩
  · intro action next allowed other stepped same
    refine store_of_goods punctual serving allowed other stepped ?_
    obtain ⟨nextConfig, nextStep⟩ := config_step stepped
    rw [good, Client.goods, (deadline_eq nextConfig nextStep).trans deadline]
    exact same
  · intro began named
    exact @deadline_bounds (initial config timerStep) began named

/-- A source whose first answer is good, whose second is a failure and which then hangs. -/
def fadingSource : FlagSource
  | 0 => .answers 1000000000 (.ok (FlagSet.empty.withVersion "a"))
  | 1 => .answers 0 (.error .unauthorized)
  | _ => .hangs

/-- Three polls of a fading source, the last of which is cut off. -/
def fadingRun : List Action :=
  [.call 0 .start, .takeLock, .resume, .elapse 1000000000,
    .answer (.ok (FlagSet.empty.withVersion "a")) .half, .elapse 29000000000, .resume,
    .answer (.error .unauthorized) .half, .elapse 30000000000, .resume, .elapse 10000000000,
    .cutOff .half]

/-- The fading source drives its run. -/
theorem drivenBy_fadingRun : (initial .default 1000000).DrivenBy fadingSource fadingRun := by
  unfold fadingRun
  refine drivenBy_cons (by rintro _ _ ⟨⟩) rfl ?_
  refine drivenBy_cons (by rintro _ _ ⟨⟩) rfl ?_
  refine drivenBy_cons (by rintro _ _ ⟨⟩) rfl ?_
  refine drivenBy_cons (by rintro _ _ ⟨⟩ _ ⟨⟩; decide) rfl ?_
  refine drivenBy_cons (by rintro _ _ ⟨⟩; exact ⟨_, rfl, rfl⟩) rfl ?_
  refine drivenBy_cons (by rintro _ _ ⟨⟩) rfl ?_
  refine drivenBy_cons (by rintro _ _ ⟨⟩) rfl ?_
  refine drivenBy_cons (by rintro _ _ ⟨⟩; exact ⟨_, rfl, rfl⟩) rfl ?_
  refine drivenBy_cons (by rintro _ _ ⟨⟩) rfl ?_
  refine drivenBy_cons (by rintro _ _ ⟨⟩) rfl ?_
  refine drivenBy_cons (by rintro _ _ ⟨⟩ _ ⟨⟩) rfl ?_
  exact drivenBy_cons (by rintro _ _ ⟨⟩ _ ⟨⟩) rfl trivial

/-- After an error and a fetch that is cut off the first set is still served, under the first sequence. -/
theorem serves_last_good_poll_fadingRun :
    ∃ client, (initial .default 1000000).run fadingRun = some client ∧
      (initial .default 1000000).DrivenBy fadingSource fadingRun ∧
      (∀ snapshot, .publish snapshot ∉ fadingRun) ∧
      client.fetches.size = 3 ∧ client.snapshot.version = some "a" ∧
      client.snapshot.sequence.toNat = 1 := by
  have ran : (initial .default 1000000).run fadingRun = some _ := rfl
  have alone : ∀ snapshot, .publish snapshot ∉ fadingRun := by simp [fadingRun]
  have served := serves_last_good_poll .default 1000000 fadingSource fadingRun _ ran drivenBy_fadingRun
    alone
  refine ⟨_, ran, drivenBy_fadingRun, alone, rfl, ?_, ?_⟩
  · exact (served.2.1 (FlagSet.empty.withVersion "a") rfl).2
  · exact served.2.2.1.trans rfl

/-- One poll whose source takes two milliseconds. -/
def hurriedRun : List Action :=
  [.call 0 .start, .takeLock, .resume, .elapse 2000000, .answer (.ok .empty) .half]

/-- With timers that run out at whole milliseconds, an answer is served that comes half a millisecond
after the time for its fetch is over. -/
theorem overdue_answer_served :
    hurried.validate = .ok () ∧
    ∃ client, (initial hurried 1000000).run hurriedRun = some client ∧
      (initial hurried 1000000).DrivenBy (fun _ => .answers 2000000 (.ok .empty)) hurriedRun ∧
      (∀ snapshot, .publish snapshot ∉ hurriedRun) ∧
      goodSets (fun _ => .answers 2000000 (.ok .empty)) (· + hurried.fetchTimeout.nanos)
        client.completed = [] ∧
      client.snapshot.sequence ≠ 0 := by
  refine ⟨rfl, _, rfl, ?_, by simp [hurriedRun], List.isEmpty_iff.mp (by decide), by decide⟩
  unfold hurriedRun
  refine drivenBy_cons (by rintro _ _ ⟨⟩) rfl ?_
  refine drivenBy_cons (by rintro _ _ ⟨⟩) rfl ?_
  refine drivenBy_cons (by rintro _ _ ⟨⟩) rfl ?_
  refine drivenBy_cons (by rintro _ _ ⟨⟩ _ ⟨⟩; decide) rfl ?_
  exact drivenBy_cons (by rintro _ _ ⟨⟩; exact ⟨_, rfl, rfl⟩) rfl trivial

end Client

end LiveFlags
