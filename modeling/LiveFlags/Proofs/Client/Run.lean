import LiveFlags.Proofs.Client.Transition

/-!
# Runs of a client

A run is a list of actions that can happen in their order. What every allowed step keeps holds after every
run of allowed actions (`run_keeps`). `Client.pollEnds` reads off a run how its polls have ended: a poll
is over when its snapshot has been taken or discarded by the store, when it has failed, or when it has
panicked, in its source or for want of a sequence after the last one. A fetch that is still in flight, and
one that ended with its task when the owner dropped the client, have no such end.
-/
namespace LiveFlags

/-- How a poll ends. -/
inductive PollEnd where
  /-- The store takes the snapshot. -/
  | published (snapshot : Snapshot)
  /-- The snapshot is well formed, and the store has a newer one. -/
  | discarded (snapshot : Snapshot)
  /-- There is no snapshot. -/
  | failed (failure : PollFailure)
  /-- The source panics, or the snapshot is well formed and takes the last sequence. -/
  | panicked

namespace PollEnd

/-- The store has taken a snapshot. -/
def isPublished : PollEnd → Bool
  | .published _ => true
  | _ => false

/-- The store has turned a snapshot down. -/
def isDiscarded : PollEnd → Bool
  | .discarded _ => true
  | _ => false

/-- The poll has failed. -/
def isFailed : PollEnd → Bool
  | .failed _ => true
  | _ => false

end PollEnd

namespace Client

/-- The end of a poll with an outcome. -/
def endOf (client : Client) : PollOutcome → PollEnd
  | .success snapshot => if client.store.accepts snapshot then .published snapshot else .discarded snapshot
  | .failure failure => .failed failure

/-- The end of a poll whose source answers. -/
def endOfAnswer (client : Client) (result : Except FetchError FlagSet) : PollEnd :=
  match client.sequenceAfter? (client.outcome result) with
  | none => .panicked
  | some _ => client.endOf (client.outcome result)

/-- The end that an action makes of the poll in flight. -/
def pollEnd? (client : Client) (action : Action) : Option PollEnd :=
  match action, client.task with
  | .answer result _, .fetching _ _ => some (client.endOfAnswer result)
  | .cutOff _, .fetching _ _ => some (.failed .timeout)
  | .panic, .fetching _ _ => some .panicked
  | _, _ => none

/-- The ends of the polls along a run, in order. -/
def pollEnds (client : Client) : List Action → List PollEnd
  | [] => []
  | action :: actions =>
    match client.step action with
    | none => []
    | some next => (client.pollEnd? action).toList ++ next.pollEnds actions

variable {client next : Client} {action : Action} {actions : List Action}

/-- The ends of a run are those of its first step and those of the rest. -/
theorem pollEnds_cons (stepped : client.step action = some next) :
    client.pollEnds (action :: actions) = (client.pollEnd? action).toList ++ next.pollEnds actions := by
  simp only [pollEnds, stepped]

/-- A poll panics if its source does, or if its snapshot takes the last sequence. -/
theorem panics_of_pollEnd? (panicked : client.pollEnd? action = some .panicked) :
    ∃ started cutOff, client.task = .fetching started cutOff ∧
      (action = .panic ∨ ∃ result draw, action = .answer result draw ∧
        client.sequenceAfter? (client.outcome result) = none) := by
  unfold pollEnd? at panicked
  split at panicked
  · rename_i result draw started cutOff fetching
    refine ⟨started, cutOff, fetching, .inr ⟨result, draw, rfl, ?_⟩⟩
    have ended := Option.some.inj panicked
    unfold endOfAnswer at ended
    split at ended
    · rename_i last
      exact last
    · unfold endOf at ended
      split at ended
      · split at ended <;> contradiction
      · contradiction
  · exact absurd (Option.some.inj panicked) (by simp)
  · rename_i started cutOff fetching
    exact ⟨started, cutOff, fetching, .inl rfl⟩
  · contradiction

/-- A step of the client begins at most one fetch, and tells the source the version in use. -/
theorem fetches_step (stepped : client.step action = some next) :
    next.fetches = client.fetches ∨ ∃ call, next.fetches = client.fetches.push call ∧
      call.context.currentVersion = client.store.current.version := by
  cases transition_of_step stepped with
  | begins => exact .inr ⟨_, rfl, rfl⟩
  | _ => exact .inl rfl

/-- Fetches only ever begin. -/
theorem size_fetches_le (stepped : client.step action = some next) :
    client.fetches.size ≤ next.fetches.size := by
  rcases fetches_step stepped with same | ⟨call, pushed, _⟩
  · exact Nat.le_of_eq (congrArg Array.size same).symm
  · rw [pushed, Array.size_push]
    exact Nat.le_succ _

/-- A store that is offered a snapshot shows its version, or the version that it showed before. -/
theorem version_publish (store : Store) (snapshot : Snapshot) :
    (store.publish snapshot).current.version = store.current.version ∨
      (store.publish snapshot).current.version = snapshot.version := by
  cases taken : store.accepts snapshot with
  | true => exact .inr (by rw [Store.publish_of_accepts taken])
  | false => exact .inl (by rw [Store.publish_of_not_accepts taken])

/-- The visible version changes only to that of a set that the source brings, or of a snapshot that
somebody else publishes. -/
theorem version_step (stepped : client.step action = some next) :
    next.store.current.version = client.store.current.version ∨
      (∃ set draw, action = .answer (.ok set) draw ∧ next.store.current.version = set.version) ∨
      ∃ snapshot, action = .publish snapshot ∧ next.store.current.version = snapshot.version := by
  cases transition_of_step stepped with
  | answers result draw =>
    cases result with
    | error error => exact .inl rfl
    | ok set =>
      cases checked : set.validate with
      | error error => exact .inl (by simp [outcome, checked, storeAfter])
      | ok =>
        simp only [outcome, checked, storeAfter]
        rcases version_publish client.store (.ofSet set client.nextSequence client.wall) with same | new
        · exact .inl same
        · exact .inr (.inl ⟨set, draw, rfl, new⟩)
  | publishes snapshot =>
    rcases version_publish client.store snapshot with same | new
    · exact .inl same
    · exact .inr (.inr ⟨snapshot, rfl, new⟩)
  | _ => exact .inl rfl

/-- A run begins with a step and goes on with a run. -/
theorem run_cons (ran : client.run (action :: actions) = some next) :
    ∃ middle, client.step action = some middle ∧ middle.run actions = some next :=
  Option.bind_eq_some_iff.mp ran

/-- A run of two lists of actions is a run of the first and then of the second. -/
theorem run_append (first last : List Action) :
    client.run (first ++ last) = (client.run first).bind fun middle => middle.run last := by
  induction first generalizing client with
  | nil => rfl
  | cons action first ih =>
    simp only [List.cons_append, run]
    cases client.step action with
    | none => rfl
    | some middle => exact ih

/-- A run ends with a step. -/
theorem run_concat (ran : client.run (actions ++ [action]) = some next) :
    ∃ middle, client.run actions = some middle ∧ middle.step action = some next := by
  rw [run_append] at ran
  obtain ⟨middle, reached, last⟩ := Option.bind_eq_some_iff.mp ran
  obtain ⟨final, stepped, done⟩ := run_cons last
  exact ⟨middle, reached, stepped.trans done⟩

/-- What every allowed step keeps, every run of allowed actions keeps. -/
theorem run_keeps (kept : Client → Prop) (allowed : Action → Prop)
    (keeps : ∀ {client next : Client} {action : Action}, allowed action →
      client.step action = some next → kept client → kept next)
    (within : ∀ action ∈ actions, allowed action) (ran : client.run actions = some next)
    (start : kept client) : kept next := by
  induction actions generalizing client with
  | nil =>
    obtain rfl := Option.some.inj ran
    exact start
  | cons action actions ih =>
    obtain ⟨middle, stepped, ran⟩ := run_cons ran
    obtain ⟨here, later⟩ := List.forall_mem_cons.mp within
    exact ih later ran (keeps here stepped start)

end Client

end LiveFlags
