import LiveFlags.Http.Polling
import LiveFlags.Proofs.Client.Run

/-!
# Runs of a client that polls through a fetcher

A step is one of the client alone, or the end of the exchange in flight (`Polling.step_cases`). The fetch
in flight is always the last one that the client has begun (`Polling.flying_step`), so its request names
the tag of what the fetcher keeps, or else the version that was visible when the fetch began
(`Polling.ifNoneMatch_of_flying`). What every allowed step keeps holds after every run of allowed steps
(`Polling.run_keeps`).
-/
namespace LiveFlags.Http

/-- Only an answer of the source or somebody else changes what is visible. -/
theorem store_step {client next : Client} {action : Action} (stepped : client.step action = some next)
    (own : Polling.isFromSource action = false) (alone : ∀ snapshot, action ≠ .publish snapshot) :
    next.store = client.store := by
  cases Client.transition_of_step stepped with
  | answers => simp [Polling.isFromSource] at own
  | publishes snapshot => exact absurd rfl (alone snapshot)
  | _ => rfl

/-- What a fetch comes to: an error, what was captured, or the document of a successful answer. -/
theorem Pending.handle_cases (pending : Pending) (outcome : Outcome) :
    (∃ error, pending.handle outcome = Pending.refused error) ∨
      pending.handle outcome = pending.reuse ∨
      ∃ answer bytes set, outcome = .ok answer ∧ answer.isSuccess = true ∧ answer.body = .whole bytes ∧
        readDocument bytes = .ok set ∧
        (pending.handle outcome).result = .ok (versioned set answer.entityTag?) ∧
        (pending.handle outcome).replacement =
          some ⟨answer.entityTag?, versioned set answer.entityTag?⟩ := by
  unfold Pending.handle
  split
  · rename_i fault
    exact .inl ⟨.request fault, rfl⟩
  · rename_i answer
    split
    · exact .inr (.inl rfl)
    · split
      · exact .inl ⟨.unauthorized answer.status, rfl⟩
      · split
        · rename_i success
          unfold Pending.accept
          split
          · rename_i fault _
            exact .inl ⟨.request fault, rfl⟩
          · rename_i bytes came
            split
            · rename_i problem read
              exact .inl ⟨.decode problem.message, rfl⟩
            · rename_i set read
              exact .inr (.inr ⟨answer, bytes, set, rfl, success, came, read, rfl, rfl⟩)
        · exact .inl ⟨.status answer.status answer.lossyText, rfl⟩

/-- What is kept after a fetch was kept before, or has come out of the document of a successful answer. -/
theorem cached_keep {fetcher : Fetcher} {pending : Pending} {outcome : Outcome} {cached : Cached}
    (found : (fetcher.keep (pending.handle outcome)).cached = some cached) :
    fetcher.cached = some cached ∨ ∃ answer, outcome = .ok answer ∧ answer.isSuccess = true ∧
      cached.entityTag = answer.entityTag? ∧ (pending.handle outcome).result = .ok cached.set := by
  rcases pending.handle_cases outcome with
    ⟨error, refused⟩ | reused | ⟨answer, _, set, same, success, _, _, got, new⟩
  · rw [refused] at found
    exact .inl found
  · rw [reused] at found
    exact .inl found
  · rw [Fetcher.keep, new, Option.some_or] at found
    obtain rfl := Option.some.inj found
    exact .inr ⟨answer, same, success, rfl, got⟩

namespace Polling

/-- The version that the source was told when the last fetch began. -/
def handed (polling : Polling) : Option String :=
  polling.client.fetches.back?.bind (·.context.currentVersion)

/-- The fetch in flight is the last one that the client has begun, and nothing has been kept since. -/
def Flying (polling : Polling) : Prop :=
  ∀ pending, polling.pending = some pending →
    ∃ call, polling.client.fetches.back? = some call ∧ pending = polling.fetcher.capture call.context

/-- Every action of the run is allowed in the state in which it happens. -/
def Along (allowed : Polling → PollingAction → Prop) (polling : Polling) : List PollingAction → Prop
  | [] => True
  | action :: actions => allowed polling action ∧
    ∀ next, polling.step action = some next → next.Along allowed actions

variable {polling next : Polling} {action : PollingAction} {actions : List PollingAction}

/-- The client goes on by itself, or the fetch in flight ends. -/
theorem step_cases (stepped : polling.step action = some next) :
    (∃ own client, action = .client own ∧ isFromSource own = false ∧
      polling.client.step own = some client ∧ next = polling.follow client) ∨
    ∃ outcome draw pending client, action = .conclude outcome draw ∧ polling.pending = some pending ∧
      (polling.client.logging (pending.handle outcome).events).step
        (.answer (pending.handle outcome).sourceResult draw) = some client ∧
      next = ⟨client, polling.fetcher.keep (pending.handle outcome), none⟩ := by
  cases action with
  | client own =>
    simp only [step] at stepped
    split at stepped
    · contradiction
    · rename_i inner
      obtain ⟨client, went, follows⟩ := Option.map_eq_some_iff.mp stepped
      exact .inl ⟨own, client, rfl, by simpa using inner, went, follows.symm⟩
  | conclude outcome draw =>
    obtain ⟨pending, flying, concluded⟩ := Option.bind_eq_some_iff.mp stepped
    obtain ⟨client, answered, ended⟩ := Option.bind_eq_some_iff.mp concluded
    exact .inr ⟨outcome, draw, pending, client, rfl, flying, answered, (Option.some.inj ended).symm⟩

/-- After the client has gone on by itself the fetch in flight is the one before, or a new one, which has
captured what is kept and has been told the visible version. -/
theorem pending_follow {own : Action} {client : Client} {pending : Pending}
    (went : polling.client.step own = some client)
    (captured : (polling.follow client).pending = some pending) :
    (polling.pending = some pending ∧ client.fetches = polling.client.fetches) ∨
      ∃ call, client.fetches = polling.client.fetches.push call ∧
        pending = polling.fetcher.capture call.context ∧
        call.context.currentVersion = polling.client.store.current.version := by
  simp only [follow, pendingAfter] at captured
  split at captured
  · rcases Client.fetches_step went with same | ⟨call, pushed, current⟩
    · rw [same, if_neg (Nat.lt_irrefl _)] at captured
      exact .inl ⟨captured, same⟩
    · rw [pushed, Array.size_push, if_pos (Nat.lt_succ_self _), Array.back?_push] at captured
      exact .inr ⟨call, pushed, (Option.some.inj captured).symm, current⟩
  · contradiction

/-- Every step leaves the last fetch in flight. -/
theorem flying_step (stepped : polling.step action = some next) (flying : Flying polling) :
    Flying next := by
  intro pending captured
  rcases step_cases stepped with ⟨own, client, rfl, _, went, rfl⟩ | ⟨_, _, _, _, _, _, _, rfl⟩
  · rcases pending_follow went captured with ⟨before, same⟩ | ⟨call, pushed, new, _⟩
    · simpa [follow, same] using flying pending before
    · exact ⟨call, by simp [follow, pushed], new⟩
  · contradiction

/-- The request names the tag of what is kept or else the version that the client has in use. -/
theorem ifNoneMatch_of_flying {pending : Pending} (flying : Flying polling)
    (captured : polling.pending = some pending) :
    pending.captured = polling.fetcher.cached ∧ pending.request.ifNoneMatch =
      (pending.captured.bind (·.validator polling.handed)).map Text.Utf8.encode := by
  obtain ⟨call, last, rfl⟩ := flying pending captured
  refine ⟨rfl, ?_⟩
  simp [Fetcher.capture, Fetcher.request, handed, last]

/-- Actions that are allowed wherever they happen are allowed along every run. -/
theorem along_of_forall {allowed : PollingAction → Prop} (each : ∀ action ∈ actions, allowed action) :
    polling.Along (fun _ => allowed) actions := by
  induction actions generalizing polling with
  | nil => trivial
  | cons action actions ih =>
    obtain ⟨here, later⟩ := List.forall_mem_cons.mp each
    exact ⟨here, fun _ _ => ih later⟩

/-- What every allowed step keeps, every run of allowed steps keeps. -/
theorem run_keeps {allowed : Polling → PollingAction → Prop} (held : Polling → Prop)
    (keeps : ∀ {polling next : Polling} {action : PollingAction}, allowed polling action →
      polling.step action = some next → held polling → held next)
    (along : polling.Along allowed actions) (ran : polling.run actions = some next)
    (start : held polling) : held next := by
  induction actions generalizing polling with
  | nil =>
    obtain rfl := Option.some.inj ran
    exact start
  | cons action actions ih =>
    obtain ⟨middle, stepped, ran⟩ := Option.bind_eq_some_iff.mp ran
    obtain ⟨here, later⟩ := along
    exact ih (later middle stepped) ran (keeps here stepped start)

/-- A fetcher that keeps nothing. -/
def freshFetcher : Fetcher := ⟨⟨"http", none, .segments ["flags"], none, none⟩, "key", .zero, none⟩

end Polling

end LiveFlags.Http
