import LiveFlags.Proofs.Client.Faults
import LiveFlags.Proofs.Client.Publishers

/-!
# Waiting for the first snapshot

A caller that waits is told that there is a snapshot, or gives up when its time is over. What it is told, and when,
depends on the first publication of the run and on the end of its time alone (`Awaiting`): every step keeps that, and
while the caller waits neither the end of its time nor the first publication is overrun.
-/
namespace LiveFlags.Client

/-- The snapshot that the store takes in a step, and when. -/
def publication? (client : Client) (action : Action) : Option (Instant × Snapshot) :=
  (client.taken? action).map fun snapshot => (client.now, snapshot)

/-- What a caller that waits is told in a step, and when. -/
def verdict? (caller : Nat) (client : Client) (action : Action) : Option (Bool × Instant) :=
  match action with
  | .notice => if client.waiters.head?.any (·.caller = caller) then some (true, client.now) else none
  | .giveUp leaver => if leaver = caller then some (false, client.now) else none
  | _ => none

/-- How often a caller waits at present. -/
def waitsOf (client : Client) (caller : Nat) : Nat := client.waiters.countP (·.caller = caller)

/-- What the store shows of the publications so far. -/
structure Published (seen : List (Instant × Snapshot)) (client : Client) : Prop where
  /-- Subscribers read the visible sequence. -/
  read : client.store.read = client.store.current.sequence
  /-- There is a snapshot to see if there has been a publication. -/
  ready : client.isReady = true ↔ seen ≠ []
  /-- No publication is still to come. -/
  past : ∀ publication ∈ seen, publication.1 ≤ client.now
  /-- The visible snapshot is that of the first publication or a later one. -/
  newest : ∀ instant snapshot, seen.head? = some (instant, snapshot) →
    client.snapshot = snapshot ∨ snapshot.sequence < client.snapshot.sequence

variable {client next : Client} {action : Action} {actions : List Action} {snapshot : Snapshot}
  {seen : List (Instant × Snapshot)}

/-- A snapshot that the store takes becomes visible, under a higher sequence than before. -/
theorem store_of_taken (stepped : client.step action = some next) (taken : client.taken? action = some snapshot) :
    client.store.current.sequence < snapshot.sequence ∧
      next.store = ⟨snapshot, snapshot.sequence, client.store.taken + 1⟩ := by
  obtain ⟨offered, accepted⟩ := Option.filter_eq_some_iff.mp taken
  refine ⟨by simpa [Store.accepts] using accepted, ?_⟩
  rw [store_of_offered stepped, offered]
  exact Store.publish_of_accepts accepted

/-- There is a snapshot to see once the store has taken one. -/
theorem isReady_of_taken (stepped : client.step action = some next) (taken : client.taken? action = some snapshot) :
    next.isReady = true := by
  obtain ⟨above, same⟩ := store_of_taken stepped taken
  have positive : 0 < snapshot.sequence := UInt64.lt_of_le_of_lt UInt64.zero_le above
  simpa [isReady, same, Store.read] using (UInt64.ne_of_lt positive).symm

/-- The store stays as it is unless it takes a snapshot. -/
theorem store_of_untaken (stepped : client.step action = some next) (untaken : client.taken? action = none) :
    next.store = client.store := by
  rw [store_of_offered stepped]
  unfold taken? at untaken
  cases offered : client.offered? action with
  | none => rfl
  | some snapshot =>
    rw [offered, Option.filter_eq_none_iff] at untaken
    exact Store.publish_of_not_accepts (by simpa using untaken snapshot rfl)

/-- An action that offers nothing adds no publication. -/
theorem append_publication? (unoffered : client.offered? action = none) :
    seen ++ (client.publication? action).toList = seen := by
  rw [publication?, taken?, unoffered]
  exact List.append_nil seen

/-- Every step keeps what the store shows of the publications. -/
theorem published_step (stepped : client.step action = some next) (published : Published seen client) :
    Published (seen ++ (client.publication? action).toList) next := by
  have later := now_le_step stepped
  unfold publication?
  cases taken : client.taken? action with
  | none =>
    have same := store_of_untaken stepped taken
    simp only [Option.map_none, Option.toList_none, List.append_nil]
    constructor
    · rw [same]
      exact published.read
    · rw [isReady, same]
      exact published.ready
    · exact fun publication member => Nat.le_trans (published.past publication member) later
    · rw [Client.snapshot, same]
      exact published.newest
  | some snapshot =>
    obtain ⟨above, same⟩ := store_of_taken stepped taken
    constructor
    · rw [same]
      rfl
    · simp [isReady_of_taken stepped taken]
    · intro publication member
      rcases List.mem_append.mp member with before | here
      · exact Nat.le_trans (published.past publication before) later
      · obtain rfl := List.mem_singleton.mp here
        exact later
    · intro instant first head
      rw [Client.snapshot, same]
      cases seen with
      | nil =>
        obtain ⟨_, rfl⟩ := Prod.mk.inj (Option.some.inj head)
        exact .inl rfl
      | cons publication seen =>
        right
        rcases published.newest instant first head with rfl | below
        · exact above
        · exact UInt64.lt_trans below above

/-- Nothing has been published to a client that has not done anything. -/
theorem published_initial (config : Config) (timerStep : Nat) : Published [] (initial config timerStep) :=
  ⟨rfl, by simp [isReady, initial, Store.read, Store.initial], by simp, by simp⟩

/-- What a caller that began to wait at an instant has been told by now, and what it can still be told. -/
structure Awaiting (caller : Nat) (asked limit : Instant) (early seen : List (Instant × Snapshot))
    (verdicts : List (Bool × Instant)) (client : Client) : Prop where
  /-- What the store shows of the publications so far. -/
  published : Published seen client
  /-- There are no fewer publications than before the caller began to wait. -/
  since : seen = [] → early = []
  /-- The caller waits, or it has been told once. -/
  once : verdicts.length + client.waitsOf caller = 1
  /-- It gives up when its time is over. -/
  givesUp : ∀ waiter ∈ client.waiters, waiter.caller = caller → waiter.givesUp = limit
  /-- As long as it waits its time is not over, and time stands still after the first publication. -/
  inTime : verdicts = [] → asked ≤ client.now ∧ client.now ≤ limit ∧
    ∀ instant snapshot, seen.head? = some (instant, snapshot) → client.now = max asked instant
  /-- It is told that there is a snapshot at the first publication, or at once if that was before. -/
  told : ∀ instant, (true, instant) ∈ verdicts → instant ≤ limit ∧
    ∃ first snapshot, seen.head? = some (first, snapshot) ∧ instant = max asked first
  /-- It gives up when its time is over and nothing has been published until then. -/
  late : ∀ instant, (false, instant) ∈ verdicts → instant = limit ∧ early = [] ∧ limit ≤ client.now ∧
    ∀ publication ∈ seen, limit ≤ publication.1

section Awaiting

variable {caller : Nat} {asked limit : Instant} {early : List (Instant × Snapshot)} {verdicts : List (Bool × Instant)}

/-- Where the callers that wait stay and no time passes, a publication at most is new. -/
theorem Awaiting.frame (awaiting : Awaiting caller asked limit early seen verdicts client)
    (stepped : client.step action = some next) (waiters : next.waiters = client.waiters)
    (now : next.now = client.now) :
    Awaiting caller asked limit early (seen ++ (client.publication? action).toList) verdicts next := by
  have present : ∀ publication ∈ (client.publication? action).toList, publication.1 = client.now := by
    intro publication member
    obtain ⟨snapshot, _, rfl⟩ := Option.map_eq_some_iff.mp (Option.mem_toList.mp member)
    rfl
  constructor
  · exact published_step stepped awaiting.published
  · intro none
    exact awaiting.since (List.append_eq_nil_iff.mp none).1
  · rw [waitsOf, waiters]
    exact awaiting.once
  · rw [waiters]
    exact awaiting.givesUp
  · intro waits
    obtain ⟨begun, inTime, still⟩ := awaiting.inTime waits
    rw [now]
    refine ⟨begun, inTime, fun instant snapshot head => ?_⟩
    cases seen with
    | cons publication seen => exact still instant snapshot head
    | nil =>
      have here := present _ (List.mem_of_mem_head? head)
      rw [show instant = client.now from here]
      exact (Nat.max_eq_right begun).symm
  · intro instant member
    obtain ⟨inTime, first, snapshot, head, same⟩ := awaiting.told instant member
    exact ⟨inTime, first, snapshot, by rw [List.head?_append, head]; rfl, same⟩
  · intro instant member
    obtain ⟨same, none, past, later⟩ := awaiting.late instant member
    refine ⟨same, none, now ▸ past, fun publication inside => ?_⟩
    rcases List.mem_append.mp inside with before | here
    · exact later publication before
    · rw [present publication here]
      exact past

/-- While the caller waits it counts. -/
theorem Awaiting.verdicts_eq_nil (awaiting : Awaiting caller asked limit early seen verdicts client)
    (waits : 0 < client.waitsOf caller) : verdicts = [] := by
  have once := awaiting.once
  exact List.length_eq_zero_iff.mp (by omega)

/-- A verdict that comes while the caller waits is the only one. -/
theorem Awaiting.answer (awaiting : Awaiting caller asked limit early seen verdicts client) {verdict : Bool × Instant}
    (published : Published seen next) (waits : client.waitsOf caller = next.waitsOf caller + 1)
    (rest : ∀ waiter ∈ next.waiters, waiter ∈ client.waiters) (now : next.now = client.now)
    (here : verdict = (client.isReady, client.now)) (expired : client.isReady = false → limit ≤ client.now) :
    Awaiting caller asked limit early seen (verdicts ++ [verdict]) next := by
  obtain rfl := awaiting.verdicts_eq_nil (by omega)
  obtain ⟨begun, inTime, still⟩ := awaiting.inTime rfl
  subst here
  have once := awaiting.once
  constructor
  · exact published
  · exact awaiting.since
  · simp only [List.length_nil] at once
    simp only [List.nil_append, List.length_singleton]
    omega
  · exact fun waiter member => awaiting.givesUp waiter (rest waiter member)
  · intro none
    simp at none
  · intro instant member
    obtain ⟨ready, rfl⟩ := Prod.mk.inj (List.mem_singleton.mp member)
    have some := awaiting.published.ready.mp ready.symm
    obtain ⟨⟨first, snapshot⟩, head⟩ := Option.isSome_iff_exists.mp (List.isSome_head?.mpr some)
    exact ⟨inTime, first, snapshot, head, still first snapshot head⟩
  · intro instant member
    obtain ⟨unready, rfl⟩ := Prod.mk.inj (List.mem_singleton.mp member)
    have none : seen = [] := by
      by_contra some
      rw [awaiting.published.ready.mpr some] at unready
      contradiction
    have past := expired unready.symm
    refine ⟨Nat.le_antisymm inTime past, awaiting.since none, now ▸ past, ?_⟩
    simp [none]

/-- Every step of a run in which nobody else waits under the name of the caller keeps what it has been told. -/
theorem awaiting_step (alone : ∀ timeout, action ≠ .await caller timeout) (stepped : client.step action = some next)
    (awaiting : Awaiting caller asked limit early seen verdicts client) :
    Awaiting caller asked limit early (seen ++ (client.publication? action).toList)
      (verdicts ++ (client.verdict? caller action).toList) next := by
  have published := published_step stepped awaiting.published
  have frame := awaiting.frame stepped
  -- only what happens to those who wait, and the time, can matter to the caller; the rest is the frame
  cases transition_of_step stepped with
  | awaits other timeout =>
    have foreign : other ≠ caller := by
      rintro rfl
      exact alone timeout rfl
    rw [append_publication? rfl] at published ⊢
    simp only [verdict?, Option.toList_none, List.append_nil]
    refine { awaiting with published := published, once := ?_, givesUp := ?_ }
    · simpa [waitsOf, foreign] using awaiting.once
    · intro waiter member ours
      rcases List.mem_append.mp member with before | here
      · exact awaiting.givesUp waiter before ours
      · rw [List.mem_singleton.mp here] at ours
        exact absurd ours foreign
  | notices waiter rest first ready =>
    rw [append_publication? rfl] at published ⊢
    have inside : ∀ other ∈ rest, other ∈ client.waiters := by
      intro other member
      rw [first]
      exact List.mem_cons_of_mem _ member
    by_cases ours : waiter.caller = caller
    · have verdict : client.verdict? caller .notice = some (true, client.now) := by simp [verdict?, first, ours]
      rw [verdict]
      refine awaiting.answer published ?_ inside rfl (by rw [ready]) (by simp [ready])
      simp [waitsOf, first, ours]
    · have verdict : client.verdict? caller .notice = none := by simp [verdict?, first, ours]
      rw [verdict, Option.toList_none, List.append_nil]
      refine { awaiting with published := published, once := ?_, givesUp := ?_ }
      · simpa [waitsOf, first, ours] using awaiting.once
      · exact fun other member => awaiting.givesUp other (inside other member)
  | givesUp waiter waits late unready =>
    rw [append_publication? rfl] at published ⊢
    have inside : ∀ other ∈ client.waiters.erase waiter, other ∈ client.waiters :=
      fun other member => List.mem_of_mem_erase member
    by_cases ours : waiter.caller = caller
    · have verdict : client.verdict? caller (.giveUp waiter.caller) = some (false, client.now) := by
        simp [verdict?, ours]
      rw [verdict]
      refine awaiting.answer published ?_ inside rfl (by rw [unready]) (fun _ => ?_)
      · simpa [waitsOf, ours] using (List.perm_cons_erase waits).countP_eq (·.caller = caller)
      · rw [← awaiting.givesUp waiter waits ours]
        exact late
    · have verdict : client.verdict? caller (.giveUp waiter.caller) = none := by simp [verdict?, ours]
      rw [verdict, Option.toList_none, List.append_nil]
      refine { awaiting with published := published, once := ?_, givesUp := ?_ }
      · have same : client.waitsOf caller = (client.waiters.erase waiter).countP (·.caller = caller) := by
          simpa [waitsOf, ours] using (List.perm_cons_erase waits).countP_eq (·.caller = caller)
        rw [waitsOf, ← same]
        exact awaiting.once
      · exact fun other member => awaiting.givesUp other (inside other member)
  | elapses nanos soon =>
    rw [append_publication? rfl] at published ⊢
    simp only [verdict?, Option.toList_none, List.append_nil]
    refine { awaiting with published := published, inTime := ?_, late := ?_ }
    · intro waits
      obtain ⟨begun, inTime, still⟩ := awaiting.inTime waits
      have once := awaiting.once
      rw [waits, List.length_nil, Nat.zero_add] at once
      obtain ⟨waiter, member, ours⟩ := List.countP_pos_iff.mp (Nat.lt_of_lt_of_eq Nat.one_pos once.symm)
      have due := soon _ (mem_dues.mpr (.inr (.inr ⟨waiter, member, rfl⟩)))
      rw [awaiting.givesUp waiter member (by simpa using ours)] at due
      by_cases ready : client.isReady = true
      · rw [if_pos ready] at due
        obtain rfl := Nat.eq_zero_of_le_zero (Nat.le_of_add_le_add_left due)
        exact ⟨begun, inTime, still⟩
      · rw [if_neg ready] at due
        refine ⟨Nat.le_trans begun (Nat.le_add_right _ _), due, fun instant snapshot head => ?_⟩
        have some : seen ≠ [] := fun none => by simp [none] at head
        exact absurd (awaiting.published.ready.mpr some) ready
    · intro instant member
      obtain ⟨same, none, past, later⟩ := awaiting.late instant member
      exact ⟨same, none, Nat.le_trans past (Nat.le_add_right _ _), later⟩
  | calls | refuses | starts | startFails | startsAgain | cancels | stopsIdle | stopsAgain | drains | leavesDrain
  | leavesQueue | exits | begins | answers | overflows | cutsOff | panics | publishes | dropsRunning
  | dropsOther =>
    simp only [verdict?, Option.toList_none, List.append_nil]
    exact frame rfl rfl

/-- Every run in which nobody else waits under the name of the caller keeps what it has been told. -/
theorem awaiting_run (alone : ∀ timeout, .await caller timeout ∉ actions) (ran : client.run actions = some next)
    (awaiting : Awaiting caller asked limit early seen verdicts client) :
    Awaiting caller asked limit early (seen ++ client.trail publication? actions)
      (verdicts ++ client.trail (verdict? caller) actions) next := by
  induction actions generalizing client seen verdicts with
  | nil =>
    obtain rfl := Option.some.inj ran
    simpa [trail, Machine.trail] using awaiting
  | cons action actions ih =>
    obtain ⟨middle, stepped, ran⟩ := run_cons ran
    have other : ∀ timeout, action ≠ .await caller timeout :=
      fun timeout same => alone timeout (same ▸ List.mem_cons_self)
    have later := ih (fun timeout member => alone timeout (List.mem_cons_of_mem _ member)) ran
      (awaiting_step other stepped awaiting)
    rw [List.append_assoc, List.append_assoc] at later
    simp only [trail, Machine.trail_cons stepped]
    exact later

end Awaiting

/-- In every run the store shows the publications so far. -/
theorem published_run {config : Config} {timerStep : Nat} (ran : (initial config timerStep).run actions = some client) :
    Published ((initial config timerStep).trail publication? actions) client :=
  trail_keeps publication? Published (fun _ => True) (fun _ stepped => published_step stepped) (fun _ _ => trivial)
    (published_initial config timerStep) ran

/-- Whoever waits or has been told has begun to wait. -/
theorem awaited_run {config : Config} {timerStep : Nat} (ran : (initial config timerStep).run actions = some client) :
    (∀ waiter ∈ client.waiters, ∃ timeout, .await waiter.caller timeout ∈ actions) ∧
      ∀ answer ∈ client.readiness.toList, ∃ timeout, .await answer.1 timeout ∈ actions := by
  rw [run_eq] at ran
  refine Machine.keeps_history (fun history middle =>
    (∀ waiter ∈ middle.waiters, ∃ timeout, .await waiter.caller timeout ∈ history) ∧
      ∀ answer ∈ middle.readiness.toList, ∃ timeout, .await answer.1 timeout ∈ history)
    (fun {history middle next action} _ stepped held => ?_) (by simp [initial]) ran
  have waiting : ∀ waiter ∈ middle.waiters, ∃ timeout, .await waiter.caller timeout ∈ history ++ [action] := by
    intro waiter member
    obtain ⟨timeout, awaited⟩ := held.1 waiter member
    exact ⟨timeout, List.mem_append_left _ awaited⟩
  have answered : ∀ answer ∈ middle.readiness.toList, ∃ timeout, .await answer.1 timeout ∈ history ++ [action] := by
    intro answer member
    obtain ⟨timeout, awaited⟩ := held.2 answer member
    exact ⟨timeout, List.mem_append_left _ awaited⟩
  cases transition_of_step stepped with
  | awaits caller timeout =>
    refine ⟨fun waiter member => ?_, answered⟩
    rcases List.mem_append.mp member with before | here
    · exact waiting waiter before
    · rw [List.mem_singleton.mp here]
      exact ⟨timeout, by simp⟩
  | notices first rest head ready =>
    refine ⟨fun waiter member => waiting waiter (by rw [head]; exact .tail _ member), fun answer member => ?_⟩
    rw [Array.toList_push] at member
    rcases List.mem_append.mp member with before | here
    · exact answered answer before
    · rw [List.mem_singleton.mp here]
      exact waiting first (by rw [head]; exact .head _)
  | givesUp first waits =>
    refine ⟨fun waiter member => waiting waiter (List.mem_of_mem_erase member), fun answer member => ?_⟩
    rw [Array.toList_push] at member
    rcases List.mem_append.mp member with before | here
    · exact answered answer before
    · rw [List.mem_singleton.mp here]
      exact waiting first waits
  | _ => exact ⟨waiting, answered⟩

/-- What a caller has been told, in order. -/
def answersTo (client : Client) (caller : Nat) : List Bool :=
  (client.readiness.toList.filter (·.1 = caller)).map (·.2)

/-- What a caller is told is recorded. -/
theorem answersTo_step (caller : Nat) (stepped : client.step action = some next) :
    next.answersTo caller = client.answersTo caller ++ (client.verdict? caller action).toList.map (·.1) := by
  cases transition_of_step stepped with
  | notices waiter rest first ready =>
    by_cases ours : waiter.caller = caller <;> simp [answersTo, verdict?, first, ours]
  | givesUp waiter =>
    by_cases ours : waiter.caller = caller <;> simp [answersTo, verdict?, ours]
  | _ => simp [answersTo, verdict?, beginPoll]

/-- What a caller is told in a run is recorded. -/
theorem answersTo_run (caller : Nat) (ran : client.run actions = some next) :
    next.answersTo caller = client.answersTo caller ++ (client.trail (verdict? caller) actions).map (·.1) := by
  induction actions generalizing client with
  | nil =>
    obtain rfl := Option.some.inj ran
    simp [trail, Machine.trail]
  | cons action actions ih =>
    obtain ⟨middle, stepped, ran⟩ := run_cons ran
    rw [ih ran, answersTo_step caller stepped, List.append_assoc, ← List.map_append]
    simp only [trail, Machine.trail_cons stepped]

/-- A caller that begins to wait has been told nothing yet. -/
theorem awaiting_of_await {caller : Nat} {timeout : Duration} (published : Published seen client)
    (absent : client.waitsOf caller = 0) (stepped : client.step (.await caller timeout) = some next) :
    Awaiting caller client.now (client.timer timeout) seen seen [] next := by
  have shown := published_step stepped published
  rw [append_publication? rfl] at shown
  obtain rfl := Option.some.inj stepped
  constructor
  case published => exact shown
  case since => exact id
  case once => simpa [waitsOf] using absent
  case givesUp =>
    intro waiter member ours
    rcases List.mem_append.mp member with before | here
    · have positive : 0 < client.waitsOf caller := List.countP_pos_iff.mpr ⟨waiter, before, by simpa using ours⟩
      omega
    · rw [List.mem_singleton.mp here]
  case inTime =>
    refine fun _ => ⟨Nat.le_refl _, le_timer _ _, fun instant snapshot head => ?_⟩
    exact (Nat.max_eq_left (published.past _ (List.mem_of_mem_head? head))).symm
  case told => simp
  case late => simp

end LiveFlags.Client
