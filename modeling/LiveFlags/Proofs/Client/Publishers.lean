import LiveFlags.Proofs.Client.Accounting
import LiveFlags.Proofs.Client.Calls
import LiveFlags.Proofs.Client.Numbering
import LiveFlags.Proofs.Client.Trail
import LiveFlags.Proofs.Store.Newest

/-!
# Two publishers

The poll task and others publish into the same store. The task numbers its snapshots from the sequence that
was visible when it was started, one for each well-formed set that the source brings, whatever becomes of
it (`assigning_step`). Such a snapshot becomes visible exactly if its sequence is above all that the store
has taken. So a snapshot of somebody else hides those of the task until the task has caught up with it
(`Overtaken`).
-/
namespace LiveFlags.Client

/-- The snapshot under the next sequence for the set that a source brings, if the set is well formed. -/
def validated? (client : Client) (action : Action) : Option Snapshot :=
  match action, client.task with
  | .answer result _, .fetching _ _ =>
    match client.outcome result with
    | .success snapshot => some snapshot
    | .failure _ => none
  | _, _ => none

/-- The snapshot that the task makes of such a set and offers to the store. Under the last sequence there is
none: the task panics before. -/
def assigned? (client : Client) (action : Action) : Option Snapshot :=
  (client.validated? action).filter fun _ => (successor? client.nextSequence).isSome

/-- The snapshot that is offered to the store in a step, by the task or by somebody else. -/
def offered? (client : Client) (action : Action) : Option Snapshot :=
  match action with
  | .publish snapshot => some snapshot
  | _ => client.assigned? action

/-- The snapshot that the store takes in a step. -/
def taken? (client : Client) (action : Action) : Option Snapshot :=
  (client.offered? action).filter client.store.accepts

/-- Whether the snapshot that the task makes becomes visible. -/
def shown? (client : Client) (action : Action) : Option Bool :=
  (client.assigned? action).map client.store.accepts

/-- The task has been started, and the next of its snapshots has the sequence after the given one. -/
structure Assigning (last : Nat) (client : Client) : Prop where
  /-- There is a task. -/
  present : client.task ≠ .absent
  /-- The next sequence. -/
  next : client.nextSequence.toNat = last + 1

variable {client next : Client} {action : Action} {actions : List Action} {snapshot : Snapshot}

/-- The store that has been offered a snapshot shows the higher of two sequences. -/
theorem toNat_sequence_publish (store : Store) (snapshot : Snapshot) :
    (store.publish snapshot).current.sequence.toNat =
      max store.current.sequence.toNat snapshot.sequence.toNat := by
  cases accepted : store.accepts snapshot with
  | true =>
    have above : store.current.sequence.toNat < snapshot.sequence.toNat := by
      simpa [Store.accepts, UInt64.lt_iff_toNat_lt] using accepted
    rw [Store.publish_of_accepts accepted]
    exact (Nat.max_eq_right (Nat.le_of_lt above)).symm
  | false =>
    have below : snapshot.sequence.toNat ≤ store.current.sequence.toNat := by
      simpa [Store.accepts, UInt64.le_iff_toNat_le] using accepted
    rw [Store.publish_of_not_accepts accepted]
    exact (Nat.max_eq_left below).symm

/-- A store takes a snapshot exactly if its sequence is above the visible one. -/
theorem accepts_iff (store : Store) (snapshot : Snapshot) :
    store.accepts snapshot = true ↔ store.current.sequence.toNat < snapshot.sequence.toNat := by
  simp [Store.accepts, UInt64.lt_iff_toNat_lt]

/-- A well-formed set is given the next sequence. -/
theorem sequence_of_validated? (validated : client.validated? action = some snapshot) :
    snapshot.sequence = client.nextSequence := by
  unfold validated? at validated
  split at validated
  · split at validated
    · rename_i came
      obtain rfl := Option.some.inj validated
      obtain ⟨set, _, _, rfl⟩ := success_of_outcome came
      rfl
    · contradiction
  · contradiction

/-- The task gives a snapshot the next sequence, and another one is left. -/
theorem sequence_of_assigned? (assigned : client.assigned? action = some snapshot) :
    snapshot.sequence = client.nextSequence ∧ client.nextSequence.toNat < greatestSequence := by
  obtain ⟨validated, left⟩ := Option.filter_eq_some_iff.mp assigned
  obtain ⟨following, counts⟩ := Option.isSome_iff_exists.mp left
  exact ⟨sequence_of_validated? validated, (toNat_of_successor? counts).1⟩

/-- An answer after which a sequence is left is offered to the store if it makes a snapshot. -/
theorem assigned?_of_counts {result : Except FetchError FlagSet} {started cutOff : Instant}
    {sequence : UInt64} (fetching : client.task = .fetching started cutOff)
    (counts : client.sequenceAfter? (client.outcome result) = some sequence) (draw : Draw) :
    (∃ snapshot, client.outcome result = .success snapshot ∧
      client.assigned? (.answer result draw) = some snapshot) ∨
    ∃ failure, client.outcome result = .failure failure ∧ client.assigned? (.answer result draw) = none := by
  cases came : client.outcome result with
  | failure failure => exact .inr ⟨failure, rfl, by simp [assigned?, validated?, fetching, came]⟩
  | success snapshot =>
    rw [came] at counts
    have left : successor? client.nextSequence = some sequence := counts
    exact .inl ⟨snapshot, rfl, by simp [assigned?, validated?, fetching, came, Option.filter, left]⟩

/-- An answer after which no sequence is left is not offered to the store. -/
theorem assigned?_of_last {result : Except FetchError FlagSet} {draw : Draw}
    (last : client.sequenceAfter? (client.outcome result) = none) :
    client.assigned? (.answer result draw) = none := by
  cases came : client.outcome result with
  | failure failure => simp [came, sequenceAfter?] at last
  | success snapshot =>
    rw [came] at last
    have left : successor? client.nextSequence = none := last
    simp [assigned?, left]

/-- The store changes only by what it is offered. -/
theorem store_of_offered (stepped : client.step action = some next) :
    next.store = (client.offered? action).elim client.store client.store.publish := by
  cases transition_of_step stepped with
  | answers result draw started cutOff fetching sequence counts =>
    rcases assigned?_of_counts fetching counts draw with
      ⟨snapshot, came, offered⟩ | ⟨failure, came, offered⟩
    · simp only [offered?, offered, came, storeAfter, Option.elim]
    · simp only [offered?, offered, came, storeAfter, Option.elim]
  | overflows result draw started cutOff fetching last =>
    simp only [offered?, assigned?_of_last last, Option.elim]
  | publishes snapshot => rfl
  | _ => rfl

/-- The next sequence moves on with every snapshot of the task, and only then. -/
theorem assigning_step {last : Nat} (orderly : Orderly client) (stepped : client.step action = some next)
    (assigning : Assigning last client) :
    Assigning (last + (client.assigned? action).toList.length) next := by
  obtain ⟨present, same⟩ := assigning
  cases transition_of_step stepped with
  | starts _ _ _ _ idle => exact absurd (orderly.idle idle).1 present
  | answers result draw started cutOff fetching sequence counts =>
    refine ⟨(client.isOver_taskAfter started draw).1, ?_⟩
    rcases assigned?_of_counts fetching counts draw with
      ⟨snapshot, came, offered⟩ | ⟨failure, came, offered⟩
    · rw [came] at counts
      rw [offered, (toNat_of_successor? counts).2, same]
      rfl
    · rw [came] at counts
      obtain rfl := Option.some.inj counts
      rw [offered]
      exact same
  | overflows result draw started cutOff fetching none =>
    rw [assigned?_of_last none]
    exact ⟨by simp, same⟩
  | cutsOff draw started => exact ⟨(client.isOver_taskAfter started draw).1, same⟩
  | begins => exact ⟨by simp [beginPoll], same⟩
  | exits | panics => exact ⟨by simp, same⟩
  | dropsRunning still running => exact ⟨(isOver_abortTask present).1, same⟩
  | calls | refuses | startFails | startsAgain | cancels | stopsIdle | stopsAgain | drains | leavesDrain
  | leavesQueue | publishes | awaits | notices | givesUp | elapses | dropsOther => exact ⟨present, same⟩

/-- The newest snapshot that the store has taken is visible. -/
theorem newest_step {taken : List Snapshot} (stepped : client.step action = some next)
    (newest : Newest taken client.store.current) :
    Newest (taken ++ (client.taken? action).toList) next.store.current := by
  rw [store_of_offered stepped]
  unfold taken?
  cases client.offered? action with
  | none => simpa using newest
  | some snapshot =>
    cases accepted : client.store.accepts snapshot with
    | true => simpa [Option.filter, accepted] using newest.publish snapshot
    | false => simpa [Option.filter, accepted, Store.publish_of_not_accepts accepted] using newest

/-- In every run the newest snapshot that the store has taken is visible. -/
theorem newest_run {config : Config} {timerStep : Nat}
    (ran : (initial config timerStep).run actions = some client) :
    Newest ((initial config timerStep).trail taken? actions) client.store.current :=
  trail_keeps taken? (fun taken middle => Newest taken middle.store.current) (fun _ => True)
    (fun _ => newest_step) (fun _ _ => trivial) (.inl ⟨rfl, by simp⟩) ran

/-- What the task makes of a set is what is offered to the store. -/
theorem offered?_of_assigned? (assigned : client.assigned? action = some snapshot) :
    client.offered? action = some snapshot := by
  unfold offered?
  split
  · contradiction
  · exact assigned

/-- The visible sequence does not go down, and it reaches what the task gives out. -/
theorem reached_step {last : Nat} (assigning : Assigning last client)
    (stepped : client.step action = some next) (reached : last ≤ client.store.current.sequence.toNat) :
    last + (client.assigned? action).toList.length ≤ next.store.current.sequence.toNat := by
  rw [store_of_offered stepped]
  cases assigned : client.assigned? action with
  | some snapshot =>
    have given : snapshot.sequence.toNat = last + 1 := by
      rw [(sequence_of_assigned? assigned).1]
      exact assigning.next
    rw [offered?_of_assigned? assigned]
    change last + 1 ≤ (client.store.publish snapshot).current.sequence.toNat
    rw [toNat_sequence_publish, given]
    exact Nat.le_max_right _ _
  | none =>
    change last ≤ _
    cases client.offered? action with
    | none => exact reached
    | some snapshot =>
      change last ≤ (client.store.publish snapshot).current.sequence.toNat
      rw [toNat_sequence_publish]
      exact Nat.le_trans reached (Nat.le_max_left _ _)

/-- Along a run of a client that has been started the task numbers its snapshots one after the other, and
the visible sequence reaches them. -/
theorem assigning_run {started : Client} {first : Nat} (orderly : Orderly started)
    (assigning : Assigning first started) (reached : first ≤ started.store.current.sequence.toNat)
    (ran : started.run actions = some client) :
    Assigning (first + (started.trail assigned? actions).length) client ∧
      first + (started.trail assigned? actions).length ≤ client.store.current.sequence.toNat := by
  have kept := trail_keeps assigned?
    (fun seen middle => Orderly middle ∧ Assigning (first + seen.length) middle ∧
      first + seen.length ≤ middle.store.current.sequence.toNat) (fun _ => True)
    (fun {seen middle next action} _ stepped held => ?_) (fun _ _ => trivial)
    ⟨orderly, assigning, reached⟩ ran
  · exact kept.2
  · obtain ⟨orderly, assigning, reached⟩ := held
    rw [List.length_append, ← Nat.add_assoc]
    exact ⟨orderly_step stepped orderly, assigning_step orderly stepped assigning,
      reached_step assigning stepped reached⟩

/-- Somebody else has published a snapshot when the task had given out some sequences, and nobody but the
task has published since. -/
structure Overtaken (top base : Nat) (seen : List Bool) (client : Client) : Prop where
  /-- The task goes on with its sequences. -/
  assigning : Assigning (base + seen.length) client
  /-- The visible sequence is that snapshot's, or the last one of the task. -/
  level : client.store.current.sequence.toNat = max top (base + seen.length)
  /-- A snapshot of the task is visible once the task has caught up. -/
  shown : ∀ index shown, seen[index]? = some shown → (shown = true ↔ top - base ≤ index)

/-- As long as nobody else publishes, the task catches up by one with every well-formed set. -/
theorem overtaken_step {top base : Nat} {seen : List Bool} (orderly : Orderly client)
    (alone : action.Unpublished) (stepped : client.step action = some next)
    (overtaken : Overtaken top base seen client) :
    Overtaken top base (seen ++ (client.shown? action).toList) next := by
  obtain ⟨assigning, level, shown⟩ := overtaken
  have onward := assigning_step orderly stepped assigning
  have store := store_of_offered stepped
  have own : client.offered? action = client.assigned? action := by
    cases action with
    | publish => exact alone.elim
    | _ => rfl
  rw [own] at store
  unfold shown?
  cases assigned : client.assigned? action with
  | none =>
    rw [assigned] at store onward
    change next.store = client.store at store
    simp only [Option.map_none, Option.toList_none, List.append_nil]
    exact ⟨onward, store ▸ level, shown⟩
  | some snapshot =>
    rw [assigned] at store onward
    change next.store = client.store.publish snapshot at store
    simp only [Option.map_some, Option.toList_some]
    have length : (seen ++ [client.store.accepts snapshot]).length = seen.length + 1 := by simp
    have given : snapshot.sequence.toNat = base + seen.length + 1 := by
      rw [(sequence_of_assigned? assigned).1]
      exact assigning.next
    refine ⟨?_, ?_, fun index shown' found => ?_⟩
    · rw [length]
      exact onward
    · rw [length, store, toNat_sequence_publish, given, level]
      omega
    · rw [List.getElem?_append] at found
      split at found
      · exact shown index shown' found
      · rw [List.getElem?_singleton] at found
        split at found
        · -- the next sequence is above the visible one exactly once the task has caught up
          obtain rfl := Option.some.inj found
          rw [accepts_iff, given, level]
          omega
        · contradiction

/-- As long as nobody else publishes after a snapshot that the store has taken, the snapshots of the task
are hidden until the task has caught up, and visible from then on. -/
theorem overtaken_run {top base : Nat} {published : Client} (orderly : Orderly published)
    (overtaken : Overtaken top base [] published) (alone : ∀ action ∈ actions, action.Unpublished)
    (ran : published.run actions = some client) :
    Overtaken top base (published.trail shown? actions) client := by
  have kept := trail_keeps shown? (fun seen middle => Orderly middle ∧ Overtaken top base seen middle)
    Action.Unpublished
    (fun alone stepped held =>
      ⟨orderly_step stepped held.1, overtaken_step held.1 alone stepped held.2⟩)
    alone ⟨orderly, overtaken⟩ ran
  exact kept.2

/-- A snapshot of the task becomes visible if the store takes it. -/
theorem shown?_of_assigned? (assigned : client.assigned? action = some snapshot) :
    client.shown? action = some (client.store.accepts snapshot) :=
  congrArg (Option.map client.store.accepts) assigned

/-- A snapshot of the task that the store takes is visible afterwards. -/
theorem current_of_shown (stepped : client.step action = some next)
    (assigned : client.assigned? action = some snapshot) (shown : client.store.accepts snapshot = true) :
    next.store.current = snapshot := by
  rw [store_of_offered stepped, offered?_of_assigned? assigned]
  exact congrArg Store.current (Store.publish_of_accepts shown)

/-- One that the store does not take leaves the store and the counters as they are. -/
theorem unchanged_of_hidden (stepped : client.step action = some next)
    (assigned : client.assigned? action = some snapshot) (hidden : client.store.accepts snapshot = false) :
    next.store = client.store ∧ next.tracker = client.tracker := by
  constructor
  · rw [store_of_offered stepped, offered?_of_assigned? assigned]
    exact Store.publish_of_not_accepts hidden
  · cases transition_of_step stepped with
    | answers result draw started cutOff fetching sequence counts =>
      rcases assigned?_of_counts fetching counts draw with ⟨_, came, offered⟩ | ⟨_, _, none⟩
      · obtain rfl := Option.some.inj (offered.symm.trans assigned)
        simp [came, trackerAfter, hidden]
      · exact absurd (none.symm.trans assigned) (by simp)
    | overflows => rfl
    | _ => simp [assigned?, validated?] at assigned

/-- The first start lets the task begin with the sequence after the visible one, if there is one. -/
theorem assigning_of_start {caller : Nat} {rest : List (Nat × Request)} (idle : client.guarded = .idle)
    (head : client.queue = (caller, .start) :: rest) (stepped : client.step .takeLock = some next)
    (room : client.store.current.sequence.toNat < greatestSequence) :
    Assigning client.store.current.sequence.toNat next ∧ next.store = client.store := by
  cases transition_of_step stepped with
  | starts _ _ _ _ _ sequence counts => exact ⟨⟨by simp, (toNat_of_successor? counts).2⟩, rfl⟩
  | startFails _ _ _ _ _ last => exact absurd (successor?_eq_none_iff.mp last) (Nat.ne_of_lt room)
  | startsAgain _ _ _ _ taken => exact absurd idle taken
  | cancels _ _ _ head' | stopsIdle _ _ _ head' | stopsAgain _ _ _ head' =>
    simp [head] at head'

/-- A well-formed set that comes in time is given the next sequence, if another one is left. -/
theorem assigned_of_valid {set : FlagSet} {draw : Draw}
    (stepped : client.step (.answer (.ok set) draw) = some next) (valid : set.validate = .ok ())
    (room : client.nextSequence.toNat < greatestSequence) :
    client.assigned? (.answer (.ok set) draw) = some (.ofSet set client.nextSequence client.wall) := by
  obtain ⟨following, left⟩ := exists_successor room
  cases transition_of_step stepped with
  | answers _ _ started cutOff fetching | overflows _ _ started cutOff fetching =>
    simp [assigned?, validated?, fetching, outcome, valid, Option.filter, left]

/-- The task and others publish into one store, in any order, as long as the sequences last. Every
well-formed set that the source brings in time is given the sequence after those that the task has given
out since it was started, the first one after the sequence that was visible then. The snapshot becomes
visible exactly if its sequence is above all that the store has ever taken; otherwise the store, which
its subscribers see, and the counters stay as they are, and the poll counts as an attempt all the same.
After a snapshot of somebody else that the store has taken, exactly as many snapshots of the task stay
hidden as it takes the task to reach that sequence, as long as nobody else publishes again. -/
theorem shown_iff_newest (config : Config) (timerStep : Nat) (early later : List Action)
    (before started client : Client) (caller : Nat) (rest : List (Nat × Request))
    (ran : (initial config timerStep).run early = some before) (idle : before.guarded = .idle)
    (head : before.queue = (caller, .start) :: rest) (begun : before.step .takeLock = some started)
    (goesOn : started.run later = some client)
    (room : before.store.current.sequence.toNat + (started.trail assigned? later).length + 1 <
      greatestSequence) :
    let given := before.store.current.sequence.toNat + (started.trail assigned? later).length
    (∀ set draw next, client.step (.answer (.ok set) draw) = some next → set.validate = .ok () →
      ∃ snapshot, client.assigned? (.answer (.ok set) draw) = some snapshot ∧
        snapshot = .ofSet set snapshot.sequence client.wall ∧ snapshot.sequence.toNat = given + 1 ∧
        (client.shown? (.answer (.ok set) draw) = some true ↔
          ∀ taken ∈ (initial config timerStep).trail taken? (early ++ .takeLock :: later),
            taken.sequence < snapshot.sequence) ∧
        (client.shown? (.answer (.ok set) draw) = some true → next.store.current = snapshot) ∧
        (client.shown? (.answer (.ok set) draw) = some false →
          next.store = client.store ∧ next.tracker = client.tracker) ∧
        next.stats.pollCount = UInt64.ofNat next.fetches.size) ∧
    ∀ outside published, client.store.accepts outside = true →
      client.step (.publish outside) = some published →
      ∀ onward last, (∀ action ∈ onward, action.Unpublished) → published.run onward = some last →
        ∀ index shown, (published.trail shown? onward)[index]? = some shown →
          (shown = true ↔ outside.sequence.toNat - given ≤ index) := by
  intro given
  obtain ⟨assigning, same⟩ := assigning_of_start idle head begun (by omega)
  have orderly := orderly_step begun (orderly_run ran)
  have onward : before.run (.takeLock :: later) = some client := by
    rw [run, begun]
    exact goesOn
  have whole := run_trans ran onward
  obtain ⟨assigning, reached⟩ :=
    assigning_run orderly assigning (Nat.le_of_eq (congrArg (·.current.sequence.toNat) same.symm)) goesOn
  have reached : given ≤ client.store.current.sequence.toNat := reached
  refine ⟨fun set draw next stepped valid => ?_, fun outside published accepted stepped => ?_⟩
  · have number : client.nextSequence.toNat = given + 1 := assigning.next
    have assigned := assigned_of_valid stepped valid (number ▸ room)
    have counted := (accounted_run (orderly_initial config timerStep)
      (run_trans whole (run_singleton.trans stepped)) (accounted_initial config timerStep)).1
    have newest := (newest_run whole).lt_iff client.nextSequence
    have positive : 0 < client.nextSequence := by simp [UInt64.lt_iff_toNat_lt, number]
    rw [shown?_of_assigned? assigned, Option.some.injEq, Option.some.injEq]
    refine ⟨_, assigned, rfl, number, ?_, current_of_shown stepped assigned,
      unchanged_of_hidden stepped assigned, counted⟩
    rw [Store.accepts, decide_eq_true_eq]
    exact newest.trans (and_iff_right positive)
  · have above := (accepts_iff client.store outside).mp accepted
    have store : published.store = client.store.publish outside := store_of_offered stepped
    have overtaken : Overtaken outside.sequence.toNat given [] published := by
      refine ⟨assigning_step (orderly.run goesOn) stepped assigning, ?_, by simp⟩
      rw [store, Store.publish_of_accepts accepted]
      exact (Nat.max_eq_left (Nat.le_of_lt (Nat.lt_of_le_of_lt reached above))).symm
    intro onward last alone ran
    exact (overtaken_run (orderly_step stepped (orderly.run goesOn)) overtaken alone ran).shown

/-- Somebody has published a snapshot before the client is started. -/
def preceded : List Action := [.publish (.ofSet .empty 3 .epoch), .call 0 .start]

/-- The first poll brings a well-formed set, and the second one is in flight. -/
def secondPoll : List Action :=
  [.resume, .answer (.ok .empty) .half, .elapse 30000000000, .resume]

/-- Of four more polls the second one fails. -/
def fourMore : List Action :=
  [.answer (.ok .empty) .half, .elapse 30000000000, .resume, .answer (.error .unauthorized) .half,
    .elapse 30000000000, .resume, .answer (.ok .empty) .half, .elapse 30000000000, .resume,
    .answer (.ok .empty) .half]

/-- The first snapshot of the task has the sequence four, and the second one would have the sequence five and
be visible. When somebody publishes six during the second poll, the next two snapshots of the task, five
and six, stay hidden, and seven is visible. -/
theorem shown_iff_newest_fourMore :
    ∃ before started client published last,
      (initial .default 1).run preceded = some before ∧ before.step .takeLock = some started ∧
      started.run secondPoll = some client ∧
      (started.trail assigned? secondPoll).map Snapshot.sequence = [4] ∧
      (∃ next snapshot, client.step (.answer (.ok .empty) .half) = some next ∧
        snapshot.sequence.toNat = 5 ∧ next.store.current = snapshot) ∧
      client.step (.publish (.ofSet .empty 6 .epoch)) = some published ∧
      published.run fourMore = some last ∧
      published.trail shown? fourMore = [false, false, true] ∧
      (∀ index shown, (published.trail shown? fourMore)[index]? = some shown →
        (shown = true ↔ 2 ≤ index)) ∧ last.store.current.sequence = 7 := by
  have ran : (initial .default 1).run preceded = some _ := rfl
  obtain ⟨answered, onward⟩ := shown_iff_newest .default 1 preceded secondPoll _ _ _ 0 [] ran rfl rfl rfl rfl
    (by decide)
  obtain ⟨snapshot, _, _, given, _, visible, _⟩ := answered .empty .half _ rfl rfl
  have hidden := onward (.ofSet .empty 6 .epoch) _ (by decide) rfl fourMore _
    (by simp [fourMore, Action.Unpublished]) rfl
  exact ⟨_, _, _, _, _, ran, rfl, rfl, by decide, ⟨_, snapshot, rfl, given, visible (by decide)⟩, rfl, rfl,
    by decide, hidden, by decide⟩

end LiveFlags.Client
