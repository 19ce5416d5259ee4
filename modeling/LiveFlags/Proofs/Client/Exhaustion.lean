import LiveFlags.Proofs.Client.Publishers
import LiveFlags.Proofs.Client.Status

/-!
# Sequences that run out

The next sequence is computed by an addition when the task is started and by one for each well-formed set that
the source brings (`nextSequence_step`). The sums of a run that starts the task are the numbers after the
sequence that was visible then, one by one. They fit into 64 bits exactly as long as that sequence and the number
of well-formed sets since stay below the greatest sequence together. A sum that does not fit is a panic, of the
start or of the task, and the end of polling: what has been given out until then ascends and never wraps, and
nothing is given out any more (`sequences_last_iff`).
-/
namespace LiveFlags.Client

/-- The sum that a step computes for the next sequence, in full: the number after the visible sequence when the
task is started, and the number after the sequence of a well-formed set. -/
def sum? (client : Client) (action : Action) : Option Nat :=
  match action, client.draining, client.queue, client.guarded with
  | .takeLock, none, (_, .start) :: _, .idle => some (client.store.current.sequence.toNat + 1)
  | _, _, _, _ => (client.validated? action).map fun _ => client.nextSequence.toNat + 1

/-- What a step makes of the sum that it computes: the next sequence if it fits into 64 bits, and a panic of a
caller or of the task otherwise. -/
def SumChecked (client next : Client) : Option Nat → Prop
  | none => next.nextSequence = client.nextSequence
  | some sum =>
    if sum < UInt64.size then next.nextSequence.toNat = sum
    else next.nextSequence = client.nextSequence ∧
      (next.panickedCalls.size = client.panickedCalls.size + 1 ∨ next.task = .ended (.panicked true))

/-- The sequences that the task has been given sets for since it was started when a sequence was visible. -/
structure Handing (first : Nat) (seen : List Snapshot) (client : Client) : Prop where
  /-- The client is orderly. -/
  orderly : Orderly client
  /-- There is a task. -/
  present : client.task ≠ .absent
  /-- A sequence was left when it was started. -/
  room : first < greatestSequence
  /-- They are the numbers after the first. -/
  given : seen.map (fun snapshot => snapshot.sequence.toNat) = List.range' (first + 1) seen.length
  /-- The next one follows them, or the greatest has been among them and has ended the task. -/
  next : client.nextSequence.toNat = first + seen.length + 1 ∨
    client.nextSequence.toNat = greatestSequence ∧ first + seen.length = greatestSequence ∧
      client.task = .ended (.panicked true)

/-- There is no task that could give out a sequence, and no start can spawn one. -/
structure Barred (client : Client) : Prop where
  /-- The client is orderly. -/
  orderly : Orderly client
  /-- There is no task and the visible sequence is the last one, or the task has panicked in its poll. -/
  past : client.task = .absent ∧ client.store.current.sequence.toNat = greatestSequence ∨
    client.task = .ended (.panicked true)

variable {client next started before : Client} {action : Action} {actions : List Action} {seen : List Snapshot}
  {first : Nat}

/-- The numbers that fit into 64 bits are those up to the greatest sequence. -/
theorem size_eq_greatestSequence_succ : UInt64.size = greatestSequence + 1 := rfl

/-- A set is given the next sequence only while its fetch is in flight. -/
theorem validated?_of_calm (calm : ∀ started cutOff, client.task ≠ .fetching started cutOff) (action : Action) :
    client.validated? action = none := by
  unfold validated?
  split
  · rename_i started cutOff fetching
    exact absurd fetching (calm started cutOff)
  · rfl

/-- An answer after which a sequence is left brings a well-formed set if it makes a snapshot. -/
theorem validated?_of_counts {result : Except FetchError FlagSet} {started cutOff : Instant}
    {sequence : UInt64} (fetching : client.task = .fetching started cutOff)
    (counts : client.sequenceAfter? (client.outcome result) = some sequence) (draw : Draw) :
    (∃ snapshot, client.validated? (.answer result draw) = some snapshot ∧
      successor? client.nextSequence = some sequence) ∨
    client.validated? (.answer result draw) = none ∧ sequence = client.nextSequence := by
  cases came : client.outcome result with
  | failure failure =>
    rw [came] at counts
    exact .inr ⟨by simp [validated?, fetching, came], (Option.some.inj counts).symm⟩
  | success snapshot =>
    rw [came] at counts
    exact .inl ⟨snapshot, by simp [validated?, fetching, came], counts⟩

/-- The set of an answer that takes the last sequence is well formed. -/
theorem validated?_of_last {result : Except FetchError FlagSet} {started cutOff : Instant}
    (fetching : client.task = .fetching started cutOff)
    (last : client.sequenceAfter? (client.outcome result) = none) (draw : Draw) :
    ∃ snapshot, client.validated? (.answer result draw) = some snapshot ∧
      client.nextSequence.toNat = greatestSequence := by
  have greatest := nextSequence_of_last last
  cases came : client.outcome result with
  | failure failure => simp [came, sequenceAfter?] at last
  | success snapshot => exact ⟨snapshot, by simp [validated?, fetching, came], greatest⟩

/-- The sums are checked, and the next sequence changes only when one is computed. -/
theorem nextSequence_step (stepped : client.step action = some next) :
    SumChecked client next (client.sum? action) := by
  cases transition_of_step stepped with
  | starts caller rest free head idle sequence counts =>
    obtain ⟨room, following⟩ := toNat_of_successor? counts
    have fits : client.store.current.sequence.toNat + 1 < UInt64.size := by
      rw [size_eq_greatestSequence_succ]
      omega
    simp [sum?, free, head, idle, SumChecked, fits, following]
  | startFails caller rest free head idle last =>
    have greatest := successor?_eq_none_iff.mp last
    simp [sum?, free, head, idle, SumChecked, greatest, size_eq_greatestSequence_succ]
  | startsAgain caller rest free head taken =>
    cases lives : client.guarded with
    | idle => exact absurd lives taken
    | running | stopped => simp [sum?, free, head, lives, validated?, SumChecked]
  | cancels _ _ free head | stopsIdle _ _ free head | stopsAgain _ _ free head =>
    simp [sum?, free, head, validated?, SumChecked]
  | answers result draw begun cutOff fetching sequence counts =>
    rcases validated?_of_counts fetching counts draw with ⟨snapshot, validated, left⟩ | ⟨none, rfl⟩
    · obtain ⟨room, following⟩ := toNat_of_successor? left
      have fits : client.nextSequence.toNat + 1 < UInt64.size := by
        rw [size_eq_greatestSequence_succ]
        omega
      simp [sum?, validated, SumChecked, fits, following]
    · simp [sum?, none, SumChecked]
  | overflows result draw begun cutOff fetching last =>
    obtain ⟨snapshot, validated, greatest⟩ := validated?_of_last fetching last draw
    simp [sum?, validated, greatest, SumChecked, size_eq_greatestSequence_succ]
  | _ => exact rfl

/-- Once there is a task the sums are the numbers after the sequences of the well-formed sets. -/
theorem sum?_of_present (orderly : Orderly client) (present : client.task ≠ .absent) (action : Action) :
    client.sum? action = (client.validated? action).map fun snapshot => snapshot.sequence.toNat + 1 := by
  have same : (client.validated? action).map (fun _ => client.nextSequence.toNat + 1) =
      (client.validated? action).map fun snapshot => snapshot.sequence.toNat + 1 := by
    cases validated : client.validated? action with
    | none => rfl
    | some snapshot => rw [Option.map_some, Option.map_some, sequence_of_validated? validated]
  unfold sum?
  split
  · rename_i idle
    exact absurd (orderly.idle idle).1 present
  · exact same

/-- What is handed out is what is validated, but for the last sequence. -/
theorem assigned?_eq (client : Client) (action : Action) :
    client.assigned? action =
      (client.validated? action).filter fun snapshot => (successor? snapshot.sequence).isSome := by
  unfold assigned?
  cases validated : client.validated? action with
  | none => rfl
  | some snapshot => rw [Option.filter, Option.filter, sequence_of_validated? validated]

/-- Along a run, what is handed out is what is validated, but for the last sequence. -/
theorem trail_assigned? (ran : client.run actions = some next) :
    client.trail assigned? actions =
      (client.trail validated? actions).filter fun snapshot => (successor? snapshot.sequence).isSome := by
  induction actions generalizing client with
  | nil => rfl
  | cons action actions ih =>
    obtain ⟨middle, stepped, ran⟩ := run_cons ran
    have given : client.trail assigned? (action :: actions) =
      (client.assigned? action).toList ++ middle.trail assigned? actions := Machine.trail_cons stepped
    have validated : client.trail validated? (action :: actions) =
      (client.validated? action).toList ++ middle.trail validated? actions := Machine.trail_cons stepped
    rw [given, validated, ih ran, List.filter_append, assigned?_eq]
    cases client.validated? action with
    | none => rfl
    | some snapshot =>
      by_cases left : (successor? snapshot.sequence).isSome = true
      · simp [Option.filter, left]
      · simp [Option.filter, left]

/-- A step validates a set under the next sequence or none. -/
theorem handing_step (stepped : client.step action = some next) (handing : Handing first seen client) :
    Handing first (seen ++ (client.validated? action).toList) next := by
  have onward := orderly_step stepped handing.orderly
  obtain ⟨orderly, present, room, given, ahead⟩ := handing
  have more : ∀ snapshot, client.validated? action = some snapshot →
      client.nextSequence.toNat = first + seen.length + 1 →
      (seen ++ [snapshot]).map (fun snapshot => snapshot.sequence.toNat) =
        List.range' (first + 1) (seen ++ [snapshot]).length := by
    intro snapshot validated follows
    have number : snapshot.sequence.toNat = first + 1 + seen.length := by
      rw [sequence_of_validated? validated, follows]
      omega
    simp [given, number, List.range'_1_concat]
  have follows_of_fetching : ∀ {began cutOff}, client.task = .fetching began cutOff →
      client.nextSequence.toNat = first + seen.length + 1 := by
    intro began cutOff fetching
    exact ahead.resolve_right fun past => by simp [fetching] at past
  -- only an answer validates a set
  have quiet : client.validated? action = none → next.task ≠ .absent →
      (client.nextSequence.toNat = first + seen.length + 1 ∨ next.task = client.task) →
      next.nextSequence = client.nextSequence →
      Handing first (seen ++ (client.validated? action).toList) next := by
    intro none present' kept same
    rw [none, Option.toList_none, List.append_nil]
    refine ⟨onward, present', room, given, ?_⟩
    rw [same]
    rcases kept with follows | task
    · exact .inl follows
    · rw [task]
      exact ahead
  cases transition_of_step stepped with
  | starts _ _ _ _ idle => exact absurd (orderly.idle idle).1 present
  | answers result draw began cutOff fetching sequence counts =>
    have follows := follows_of_fetching fetching
    have left := (client.isOver_taskAfter began draw).1
    rcases validated?_of_counts fetching counts draw with ⟨snapshot, validated, another⟩ | ⟨none, rfl⟩
    · rw [validated]
      refine ⟨onward, left, room, more snapshot validated follows, .inl ?_⟩
      rw [(toNat_of_successor? another).2, follows]
      simp only [Option.toList_some, List.length_append, List.length_singleton]
      omega
    · exact quiet none left (.inl follows) rfl
  | overflows result draw began cutOff fetching last =>
    have follows := follows_of_fetching fetching
    obtain ⟨snapshot, validated, greatest⟩ := validated?_of_last fetching last draw
    rw [validated]
    refine ⟨onward, by simp, room, more snapshot validated follows, .inr ⟨greatest, ?_, rfl⟩⟩
    simp only [Option.toList_some, List.length_append, List.length_singleton]
    omega
  | cutsOff draw began cutOff fetching =>
    exact quiet rfl (client.isOver_taskAfter began draw).1 (.inl (follows_of_fetching fetching)) rfl
  | panics began cutOff fetching => exact quiet rfl (by simp) (.inl (follows_of_fetching fetching)) rfl
  | exits woken =>
    have follows := ahead.resolve_right fun past => by simp [past.2.2] at woken
    exact quiet rfl (by simp) (.inl follows) rfl
  | begins due =>
    have follows := ahead.resolve_right fun past => by simp [past.2.2] at due
    exact quiet rfl (by simp [beginPoll]) (.inl follows) rfl
  | dropsRunning still running =>
    refine quiet rfl (isOver_abortTask present).1 (ahead.imp_right fun past => ?_) rfl
    rw [past.2.2]
    rfl
  | calls | refuses | startFails | startsAgain | cancels | stopsIdle | stopsAgain | drains | leavesDrain
  | leavesQueue | publishes | awaits | notices | givesUp | elapses | dropsOther =>
    exact quiet rfl present (.inr rfl) rfl

/-- Along a run the task is given sets for one sequence after the other. -/
theorem handing_run (handing : Handing first [] started) (ran : started.run actions = some client) :
    Handing first (started.trail validated? actions) client :=
  trail_keeps validated? (Handing first) (fun _ => True) (fun _ => handing_step) (fun _ _ => trivial) handing ran

/-- The sums of a run are the numbers after the sequences of the well-formed sets. -/
theorem sums_run (handing : Handing first [] started) (ran : started.run actions = some client) :
    started.trail sum? actions =
      (started.trail validated? actions).map fun snapshot => snapshot.sequence.toNat + 1 := by
  refine Machine.keeps_history (fun history _ => started.trail sum? history =
    (started.trail validated? history).map fun snapshot => snapshot.sequence.toNat + 1)
    (fun {history middle next action} ran stepped same => ?_) rfl (run_eq.symm.trans ran)
  have handed := handing_run handing (run_eq.trans ran)
  have sums : started.trail sum? (history ++ [action]) =
    started.trail sum? history ++ (middle.sum? action).toList := Machine.trail_concat ran stepped
  have given : started.trail validated? (history ++ [action]) =
    started.trail validated? history ++ (middle.validated? action).toList := Machine.trail_concat ran stepped
  rw [sums, given, same, List.map_append, sum?_of_present handed.orderly handed.present]
  cases middle.validated? action with
  | none => rfl
  | some snapshot => rfl

/-- The sums fit into 64 bits exactly as long as the sequences last. -/
theorem Handing.fits_iff (handing : Handing first seen client) :
    (∀ sum ∈ (first + 1) :: seen.map (fun snapshot => snapshot.sequence.toNat + 1), sum < UInt64.size) ↔
      first + seen.length < greatestSequence := by
  have sums : seen.map (fun snapshot => snapshot.sequence.toNat + 1) =
      (List.range' (first + 1) seen.length).map (· + 1) := by
    rw [← handing.given, List.map_map]
    rfl
  rw [size_eq_greatestSequence_succ, sums]
  constructor
  · intro fits
    by_contra few
    obtain ⟨start, others⟩ := List.forall_mem_cons.mp fits
    -- the greatest sequence has been given to a set, and the sum after it does not fit
    have member : greatestSequence ∈ List.range' (first + 1) seen.length := List.mem_range'_1.mpr (by omega)
    exact Nat.lt_irrefl _ (others _ (List.mem_map_of_mem member))
  · intro room sum member
    rcases List.mem_cons.mp member with rfl | member
    · omega
    · obtain ⟨number, among, rfl⟩ := List.mem_map.mp member
      have bounds := List.mem_range'_1.mp among
      omega

/-- The greatest sequence stays visible. -/
theorem greatest_step (stepped : client.step action = some next)
    (greatest : client.store.current.sequence.toNat = greatestSequence) :
    next.store.current.sequence.toNat = greatestSequence := by
  rw [store_of_offered stepped]
  cases client.offered? action with
  | none => exact greatest
  | some snapshot =>
    have bound := snapshot.sequence.toNat_lt
    change (client.store.publish snapshot).current.sequence.toNat = _
    rw [toNat_sequence_publish, greatest]
    unfold greatestSequence
    omega

/-- Nothing comes of a step of a client that is barred. -/
theorem barred_step (stepped : client.step action = some next) (barred : Barred client) :
    Barred next ∧ next.task = client.task ∧ next.tracker = client.tracker ∧ next.fetches = client.fetches ∧
      client.validated? action = none := by
  have onward := orderly_step stepped barred.orderly
  obtain ⟨orderly, past⟩ := barred
  have still : client.task.isOver = true ∧ abortTask client.task = client.task := by
    rcases past with ⟨absent, _⟩ | ended
    · rw [absent]
      exact ⟨rfl, rfl⟩
    · rw [ended]
      exact ⟨rfl, rfl⟩
  have calm : ∀ began cutOff, client.task ≠ .fetching began cutOff := by
    intro began cutOff fetching
    simp [fetching, Task.isOver] at still
  have kept : next.task = client.task → Barred next := by
    intro same
    refine ⟨onward, ?_⟩
    rw [same]
    exact past.imp_left (And.imp_right (greatest_step stepped))
  have none := validated?_of_calm calm action
  cases transition_of_step stepped with
  | starts _ _ _ _ idle _ counts =>
    have absent := (orderly.idle idle).1
    have greatest := (past.resolve_right (by simp [absent])).2
    exact absurd greatest (Nat.ne_of_lt (toNat_of_successor? counts).1)
  | exits woken => exact absurd still.1 (by simp [(rested_of_woken woken).2.1])
  | begins due => exact absurd still.1 (by simp [(rested_of_due due).2.1])
  | answers _ _ began cutOff fetching | overflows _ _ began cutOff fetching | cutsOff _ began cutOff fetching
  | panics began cutOff fetching => exact absurd fetching (calm began cutOff)
  | dropsRunning => exact ⟨kept still.2, still.2, rfl, rfl, none⟩
  | calls | refuses | startFails | startsAgain | cancels | stopsIdle | stopsAgain | drains | leavesDrain
  | leavesQueue | publishes | awaits | notices | givesUp | elapses | dropsOther =>
    exact ⟨kept rfl, rfl, rfl, rfl, none⟩

/-- Nothing ever comes of a client again that is barred: no set is given a sequence, no fetch begins and nothing
is counted. -/
theorem barred_run (barred : Barred client) (ran : client.run actions = some next) :
    Barred next ∧ next.task = client.task ∧ next.tracker = client.tracker ∧ next.fetches = client.fetches ∧
      client.trail validated? actions = [] := by
  refine trail_keeps validated? (fun seen middle => Barred middle ∧ middle.task = client.task ∧
    middle.tracker = client.tracker ∧ middle.fetches = client.fetches ∧ seen = []) (fun _ => True)
    (fun {seen middle next action} _ stepped held => ?_) (fun _ _ => trivial) ⟨barred, rfl, rfl, rfl, rfl⟩ ran
  obtain ⟨barred, task, tracker, fetches, rfl⟩ := held
  obtain ⟨barred', task', tracker', fetches', none⟩ := barred_step stepped barred
  rw [none]
  exact ⟨barred', task'.trans task, tracker'.trans tracker, fetches'.trans fetches, rfl⟩

/-- A step that leaves the client idle computes no sum, unless it is a start that panics. -/
theorem sum?_of_idle (orderly : Orderly client) (idle : client.guarded = .idle)
    (stepped : client.step action = some next) (still : next.guarded = .idle) :
    client.sum? action = none ∨
      client.sum? action = some UInt64.size ∧ client.store.current.sequence.toNat = greatestSequence := by
  have absent := (orderly.idle idle).1
  cases transition_of_step stepped with
  | starts | cancels | stopsIdle => cases still
  | startFails _ _ free head _ last =>
    have greatest := successor?_eq_none_iff.mp last
    exact .inr ⟨by simp [sum?, free, head, idle, greatest, size_eq_greatestSequence_succ], greatest⟩
  | startsAgain _ _ _ _ taken => exact absurd idle taken
  | stopsAgain _ _ _ _ stopped => simp [idle] at stopped
  | answers _ _ _ _ fetching | overflows _ _ _ _ fetching => simp [absent] at fetching
  | _ => exact .inl rfl

/-- A run that leaves the client idle has computed no sum, unless its starts have panicked over the greatest
sequence. -/
theorem sums_of_idle (orderly : Orderly client) (ran : client.run actions = some before)
    (idle : before.guarded = .idle) (room : before.store.current.sequence.toNat < greatestSequence) :
    client.trail sum? actions = [] := by
  have kept := Machine.keeps_history
    (fun history middle => Orderly middle ∧ (middle.guarded = .idle → client.trail sum? history = [] ∨
      middle.store.current.sequence.toNat = greatestSequence))
    (fun {history middle next action} ran stepped held => ?_) ⟨orderly, fun _ => .inl rfl⟩
    (run_eq.symm.trans ran)
  · exact (kept.2 idle).resolve_right (Nat.ne_of_lt room)
  · obtain ⟨orderly, nothing⟩ := held
    refine ⟨orderly_step stepped orderly, fun still => ?_⟩
    have idle : middle.guarded = .idle := by
      have onward := idle_iff (run_singleton.trans stepped)
      exact (onward.mp still).1
    have sums : client.trail sum? (history ++ [action]) =
      client.trail sum? history ++ (middle.sum? action).toList := Machine.trail_concat ran stepped
    rcases nothing idle with empty | greatest
    · rcases sum?_of_idle orderly idle stepped still with none | ⟨_, greatest⟩
      · exact .inl (by rw [sums, empty, none]; rfl)
      · exact .inr (greatest_step stepped greatest)
    · exact .inr (greatest_step stepped greatest)

/-- The visible sequence is the greatest that has been offered. -/
theorem sequence_le_iff {config : Config} {timerStep : Nat}
    (ran : (initial config timerStep).run actions = some client) (bound : Nat) :
    client.store.current.sequence.toNat ≤ bound ↔
      ∀ snapshot ∈ (initial config timerStep).trail offered? actions, snapshot.sequence.toNat ≤ bound := by
  refine trail_keeps offered? (fun offered middle => middle.store.current.sequence.toNat ≤ bound ↔
    ∀ snapshot ∈ offered, snapshot.sequence.toNat ≤ bound) (fun _ => True)
    (fun {offered middle next action} _ stepped same => ?_) (fun _ _ => trivial) ?_ ran
  · rw [store_of_offered stepped, List.forall_mem_append, ← same]
    cases middle.offered? action with
    | none => simp
    | some snapshot =>
      change (middle.store.publish snapshot).current.sequence.toNat ≤ bound ↔ _
      rw [toNat_sequence_publish, Nat.max_le]
      simp
  · simp [initial, Store.initial, Snapshot.empty]

/-- What becomes of the sequences of a task from the number after the first on: those that it is given sets for,
those of the snapshots that it makes of them, and the sums that are computed for the next one. -/
structure Outlasts (first : Nat) (validated given sums : List Nat) (client : Client) : Prop where
  /-- The sums fit into 64 bits exactly if the first sequence and the number of well-formed sets stay below the
  greatest together. -/
  fits : (∀ sum ∈ sums, sum < UInt64.size) ↔ first + validated.length < greatestSequence
  /-- As long as they fit, every well-formed set becomes a snapshot under its sequence. -/
  whole : (∀ sum ∈ sums, sum < UInt64.size) → given = validated
  /-- The task gives out a higher sequence every time. -/
  ascending : given.Pairwise (· < ·)
  /-- All of them are above the first. -/
  above : ∀ sequence ∈ given, first < sequence
  /-- So is the next one, which is above all that have been given out. -/
  next : client.task ≠ .absent → first < client.nextSequence.toNat ∧
    ∀ sequence ∈ given, sequence < client.nextSequence.toNat
  /-- Once a sum has not fitted there is no task or it has panicked in the middle of its poll. Nothing is given
  out any more, no fetch begins and nothing is counted. -/
  exhausted : (∃ sum ∈ sums, UInt64.size ≤ sum) →
    (client.task = .absent ∨ client.task = .ended (.panicked true)) ∧
      ∀ onward last, client.run onward = some last → client.trail assigned? onward = [] ∧
        last.tracker = client.tracker ∧ last.fetches = client.fetches

/-- Nothing comes of a client any more that is barred. -/
theorem Barred.nothing (barred : Barred client) {onward : List Action} {last : Client}
    (ran : client.run onward = some last) :
    client.trail assigned? onward = [] ∧ last.tracker = client.tracker ∧ last.fetches = client.fetches := by
  obtain ⟨_, _, tracker, fetches, none⟩ := barred_run barred ran
  refine ⟨?_, tracker, fetches⟩
  rw [trail_assigned? ran, none]
  rfl

/-- What the task has been given sets for since the start, and the sums after it, come to this. -/
theorem Handing.outlasts (handing : Handing first seen client) :
    Outlasts first (seen.map fun snapshot => snapshot.sequence.toNat)
      ((seen.filter fun snapshot => (successor? snapshot.sequence).isSome).map fun snapshot =>
        snapshot.sequence.toNat)
      ((first + 1) :: seen.map fun snapshot => snapshot.sequence.toNat + 1) client := by
  have fits := handing.fits_iff
  obtain ⟨orderly, present, early, numbers, ahead⟩ := handing
  -- what is given out is part of what is validated
  have part := (List.filter_sublist (p := fun snapshot : Snapshot =>
    (successor? snapshot.sequence).isSome) (l := seen)).map fun snapshot : Snapshot => snapshot.sequence.toNat
  have bounds : ∀ sequence ∈ seen.map (fun snapshot => snapshot.sequence.toNat),
      first < sequence ∧ sequence ≤ first + seen.length := by
    intro sequence member
    rw [numbers] at member
    have between := List.mem_range'_1.mp member
    omega
  constructor
  · rw [List.length_map]
    exact fits
  · intro small
    have room := fits.mp small
    congr 1
    refine List.filter_eq_self.mpr fun snapshot member => ?_
    have bound := (bounds _ (List.mem_map_of_mem member)).2
    obtain ⟨following, counts⟩ :=
      exists_successor (Nat.lt_of_le_of_lt bound room : snapshot.sequence.toNat < greatestSequence)
    exact Option.isSome_iff_exists.mpr ⟨following, counts⟩
  · refine List.Pairwise.sublist part ?_
    rw [numbers]
    exact List.pairwise_lt_range'
  · exact fun sequence member => (bounds sequence (part.subset member)).1
  · intro _
    rcases ahead with follows | ⟨greatest, full, _⟩
    · refine ⟨by omega, fun sequence member => ?_⟩
      have bound := (bounds sequence (part.subset member)).2
      omega
    · rw [greatest]
      refine ⟨early, fun sequence member => ?_⟩
      obtain ⟨snapshot, among, rfl⟩ := List.mem_map.mp member
      obtain ⟨following, counts⟩ := Option.isSome_iff_exists.mp (List.mem_filter.mp among).2
      exact (toNat_of_successor? counts).1
  · rintro ⟨sum, member, large⟩
    have full : ¬first + seen.length < greatestSequence := by
      intro room
      have small := fits.mpr room sum member
      omega
    have past : client.task = .ended (.panicked true) := by
      rcases ahead with follows | ⟨_, _, past⟩
      · have bound := client.nextSequence.toNat_lt
        unfold greatestSequence at full
        omega
      · exact past
    have barred : Barred client := ⟨orderly, .inr past⟩
    exact ⟨.inr past, fun onward last ran => barred.nothing ran⟩

/-- The first start lets the task hand out sequences, from the number after the visible one on, if there is
one. -/
theorem handing_of_start {caller : Nat} {rest : List (Nat × Request)} (orderly : Orderly before)
    (idle : before.guarded = .idle) (head : before.queue = (caller, .start) :: rest)
    (begun : before.step .takeLock = some started)
    (room : before.store.current.sequence.toNat < greatestSequence) :
    Handing before.store.current.sequence.toNat [] started := by
  obtain ⟨⟨present, next⟩, _⟩ := assigning_of_start idle head begun room
  exact ⟨orderly_step begun orderly, present, room, rfl, .inl next⟩

/-- A start that finds the greatest sequence panics and leaves everything else as it was. -/
theorem start_fails {caller : Nat} {rest : List (Nat × Request)} (idle : before.guarded = .idle)
    (head : before.queue = (caller, .start) :: rest) (begun : before.step .takeLock = some started)
    (greatest : before.store.current.sequence.toNat = greatestSequence) :
    started = { before with queue := rest, panickedCalls := before.panickedCalls.push caller } := by
  cases transition_of_step begun with
  | starts _ _ _ _ _ _ counts => exact absurd greatest (Nat.ne_of_lt (toNat_of_successor? counts).1)
  | startFails caller' rest' _ head' =>
    rw [head] at head'
    injection head' with same rest
    injection same with same
    rw [same, rest]
  | startsAgain _ _ _ _ taken => exact absurd idle taken
  | cancels _ _ _ head' | stopsIdle _ _ _ head' | stopsAgain _ _ _ head' => simp [head] at head'

/-- The sums of a run are those before the start, the one at the start and those after it. -/
theorem sums_append {config : Config} {timerStep caller : Nat} {early later : List Action}
    {rest : List (Nat × Request)} (ran : (initial config timerStep).run early = some before)
    (idle : before.guarded = .idle) (head : before.queue = (caller, .start) :: rest)
    (begun : before.step .takeLock = some started) :
    (initial config timerStep).trail sum? (early ++ .takeLock :: later) =
      (initial config timerStep).trail sum? early ++
        (before.store.current.sequence.toNat + 1) :: started.trail sum? later := by
  have free := ((orderly_run ran).idle idle).2.2.1
  have added : before.sum? .takeLock = some (before.store.current.sequence.toNat + 1) := by
    simp [sum?, free, head, idle]
  have parts : (initial config timerStep).trail sum? (early ++ .takeLock :: later) =
      (initial config timerStep).trail sum? early ++ before.trail sum? (.takeLock :: later) :=
    Machine.trail_append (run_eq.symm.trans ran)
  have onward : before.trail sum? (.takeLock :: later) =
    (before.sum? .takeLock).toList ++ started.trail sum? later := Machine.trail_cons begun
  rw [parts, onward, added]
  rfl

/-- Whatever has been published before the client is started, and whoever publishes afterwards: each sum that is
computed for the next sequence, at the start and for every well-formed set, fits into 64 bits exactly if the
highest sequence that had been offered before the start and the number of these sets stay below the greatest
sequence together. Every step takes the sum that it computes for the next sequence, or it panics if the sum does not
fit. The sequences that are given out ascend and are above the one at the start. Once a sum does not fit, at the start
or later, nothing is given out any more; a start whose sum does not fit panics and leaves everything else as it
was. -/
theorem sequences_last_iff (config : Config) (timerStep : Nat) (early later : List Action)
    (before started client : Client) (caller : Nat) (rest : List (Nat × Request))
    (ran : (initial config timerStep).run early = some before) (idle : before.guarded = .idle)
    (head : before.queue = (caller, .start) :: rest) (begun : before.step .takeLock = some started)
    (goesOn : started.run later = some client) :
    let first := before.store.current.sequence.toNat
    (∀ bound, first ≤ bound ↔
      ∀ snapshot ∈ (initial config timerStep).trail offered? early, snapshot.sequence.toNat ≤ bound) ∧
    (∀ current action next, Client.step current action = some next → SumChecked current next (current.sum? action)) ∧
    (UInt64.size ≤ first + 1 →
      started = { before with queue := rest, panickedCalls := before.panickedCalls.push caller }) ∧
    Outlasts first ((started.trail validated? later).map fun snapshot => snapshot.sequence.toNat)
      ((started.trail assigned? later).map fun snapshot => snapshot.sequence.toNat)
      ((initial config timerStep).trail sum? (early ++ .takeLock :: later)) client := by
  intro first
  have orderly := orderly_run ran
  have bound : first ≤ greatestSequence := Nat.lt_succ_iff.mp before.store.current.sequence.toNat_lt
  refine ⟨sequence_le_iff ran, fun _ _ _ => nextSequence_step, fun large => ?_, ?_⟩
  · rw [size_eq_greatestSequence_succ] at large
    exact start_fails idle head begun (by omega)
  rw [sums_append ran idle head begun, trail_assigned? goesOn]
  rcases Nat.lt_or_eq_of_le bound with room | greatest
  · have handing := handing_of_start orderly idle head begun room
    rw [sums_of_idle (orderly_initial config timerStep) ran idle room, sums_run handing goesOn]
    exact (handing_run handing goesOn).outlasts
  · -- the start has panicked, so there is no task
    have failed := start_fails idle head begun greatest
    have absent : started.task = .absent := by rw [failed]; exact (orderly.idle idle).1
    have visible : started.store.current.sequence.toNat = greatestSequence := by rw [failed]; exact greatest
    obtain ⟨barred, same, _, _, none⟩ :=
      barred_run ⟨orderly_step begun orderly, .inl ⟨absent, visible⟩⟩ goesOn
    have misfit : ¬first + 1 < UInt64.size := by rw [greatest]; decide
    have member : first + 1 ∈ (initial config timerStep).trail sum? early ++
        (first + 1) :: started.trail sum? later := List.mem_append_right _ List.mem_cons_self
    rw [none]
    constructor
    · refine iff_of_false (fun fits => misfit (fits _ member)) ?_
      rw [List.map_nil, List.length_nil]
      omega
    · exact fun _ => rfl
    · exact List.Pairwise.nil
    · exact fun _ none => absurd none List.not_mem_nil
    · exact fun present => absurd (same.trans absent) present
    · exact fun _ => ⟨.inl (same.trans absent), fun onward last ran => barred.nothing ran⟩

/-- Somebody has published a snapshot before the client is started. -/
def precededBy (sequence : UInt64) : List Action := [.publish (.ofSet .empty sequence .epoch), .call 0 .start]

/-- The first poll brings a well-formed set. -/
def firstPoll : List Action := [.resume, .answer (.ok .empty) .half]

/-- When the third sequence from the end is visible at the start, the first snapshot of the task has the last
sequence but one, and both sums fit. -/
theorem sequences_last_iff_secondLast :
    ∃ before started client,
      (initial .default 1).run (precededBy 18446744073709551613) = some before ∧
      before.step .takeLock = some started ∧ started.run firstPoll = some client ∧
      (started.trail assigned? firstPoll).map (fun snapshot => snapshot.sequence.toNat) = [18446744073709551614] ∧
      (∀ sum ∈ (initial .default 1).trail sum? (precededBy 18446744073709551613 ++ .takeLock :: firstPoll),
        sum < UInt64.size) ∧
      client.nextSequence = 18446744073709551615 := by
  have ran : (initial .default 1).run (precededBy 18446744073709551613) = some _ := rfl
  obtain ⟨_, _, _, outlasts⟩ :=
    sequences_last_iff .default 1 (precededBy 18446744073709551613) firstPoll _ _ _ 0 [] ran rfl rfl rfl rfl
  exact ⟨_, _, _, ran, rfl, rfl, by decide, outlasts.fits.mpr (by decide), by decide⟩

/-- When the greatest sequence is visible at the start, the sum at the start does not fit, and the start panics.
When the one before is visible, the sum for the first well-formed set does not fit, and the task panics. -/
theorem greatest_sequence_exhausts :
    (∃ before started,
      (initial .default 1).run (precededBy 18446744073709551615) = some before ∧
      before.step .takeLock = some started ∧
      (initial .default 1).trail sum? (precededBy 18446744073709551615 ++ [.takeLock]) = [UInt64.size] ∧
      started.panickedCalls = #[0] ∧ started.task = .absent ∧ started.status = .idle) ∧
    ∃ before started client,
      (initial .default 1).run (precededBy 18446744073709551614) = some before ∧
      before.step .takeLock = some started ∧ started.run firstPoll = some client ∧
      (initial .default 1).trail sum? (precededBy 18446744073709551614 ++ .takeLock :: firstPoll) =
        [UInt64.size - 1, UInt64.size] ∧
      started.trail assigned? firstPoll = [] ∧ client.task = .ended (.panicked true) :=
  ⟨⟨_, _, rfl, rfl, by decide, by decide, rfl, rfl⟩, _, _, _, rfl, rfl, rfl, by decide, by decide, by decide⟩

end LiveFlags.Client
