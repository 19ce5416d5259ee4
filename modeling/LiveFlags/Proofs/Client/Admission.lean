import LiveFlags.Client.Evaluate
import LiveFlags.Proofs.Client.Numbering
import LiveFlags.Proofs.Flag.Payload

/-!
# Only well-formed flags are visible

The poll task makes a snapshot only of a set that has passed the check, and nothing else reaches the store of a
client, so whatever a source answers the visible flags are well formed in every state (`wellFormed_run`), and a
key that the check refuses has no value (`serves_well_formed`).
-/
namespace LiveFlags

/-- If the action offers a snapshot to the store from outside, the flags of the snapshot are well formed. -/
def Action.OffersWellFormed : Action → Prop
  | .publish snapshot => snapshot.flags.WellFormed
  | _ => True

namespace Client

variable {client next : Client} {action : Action} {actions : List Action}

/-- A store of well-formed flags that is offered well-formed flags has well-formed flags. -/
theorem wellFormed_publish {store : Store} {snapshot : Snapshot} (offered : snapshot.flags.WellFormed)
    (visible : store.current.flags.WellFormed) : (store.publish snapshot).current.flags.WellFormed := by
  cases taken : store.accepts snapshot with
  | true =>
    rw [Store.publish_of_accepts taken]
    exact offered
  | false =>
    rw [Store.publish_of_not_accepts taken]
    exact visible

/-- A poll ends with a snapshot only if its flags are well formed. -/
theorem wellFormed_of_outcome {result : Except FetchError FlagSet} {snapshot : Snapshot}
    (came : client.outcome result = .success snapshot) : snapshot.flags.WellFormed := by
  obtain ⟨set, _, valid, rfl⟩ := success_of_outcome came
  exact FlagSet.validate_eq_ok_iff.mp valid

/-- Every step leaves the visible flags well formed. -/
theorem wellFormed_step (offers : action.OffersWellFormed) (stepped : client.step action = some next)
    (visible : client.store.current.flags.WellFormed) : next.store.current.flags.WellFormed := by
  cases transition_of_step stepped with
  | answers result =>
    cases came : client.outcome result with
    | failure failure => exact visible
    | success snapshot => exact wellFormed_publish (wellFormed_of_outcome came) visible
  | publishes snapshot => exact wellFormed_publish offers visible
  | _ => exact visible

/-- Every run leaves the visible flags well formed. -/
theorem wellFormed_run (offers : ∀ action ∈ actions, action.OffersWellFormed)
    (ran : client.run actions = some next) (visible : client.store.current.flags.WellFormed) :
    next.store.current.flags.WellFormed :=
  run_keeps (·.store.current.flags.WellFormed) Action.OffersWellFormed
    (fun offers stepped visible => wellFormed_step offers stepped visible) offers ran visible

/-- In whatever order the flags of a set are checked, the set passes if all of its flags are well formed, and the
error is what one of its flags deserves. Every key that a client shows is well formed and no value is a bare
`null`, so a key that the check refuses has no value. -/
theorem serves_well_formed (config : Config) (timerStep : Nat) (actions : List Action) (client : Client)
    (ran : (initial config timerStep).run actions = some client)
    (offers : ∀ action ∈ actions, action.OffersWellFormed) :
    (∀ (set : FlagSet) (order : List (String × FlagValue)), order.Perm set.flags.entries → Screened set order) ∧
    (∀ key, client.snapshot.contains key = true → validateKey key = .ok () ∧ WellFormedKey key) ∧
    (∀ key value, client.snapshot.get? key = some value → value ≠ .json .null) ∧
    ∀ key, validateKey key ≠ .ok () → client.getValue? key = none := by
  have visible : client.snapshot.flags.WellFormed := by
    refine wellFormed_run offers ran ?_
    intro entry member
    contradiction
  have found : ∀ key value, client.snapshot.get? key = some value → WellFormedKey key ∧ value ≠ .json .null :=
    fun key value shown => visible (key, value) (Table.get?_eq_some_iff.mp shown)
  have keys : ∀ key, client.snapshot.contains key = true → WellFormedKey key := by
    intro key shown
    obtain ⟨value, held⟩ := Option.isSome_iff_exists.mp shown
    exact (found key value held).1
  refine ⟨fun set order same => screened same, fun key shown => ?_,
    fun key value shown => (found key value shown).2, fun key refused => ?_⟩
  · exact ⟨validateKey_eq_ok_iff.mpr (keys key shown), keys key shown⟩
  · cases shown : client.getValue? key with
    | none => rfl
    | some value => exact absurd (validateKey_eq_ok_iff.mpr (found key value shown).1) refused

/-- Flags whose only key has a blank in it. -/
def spaced : FlagSet := FlagSet.empty.withFlag "dark mode" (.boolean true)

/-- Flags whose only value holds a `null`. -/
def nested : FlagSet := FlagSet.empty.withFlag "limits" (.json (.object [("seats", .null)]))

/-- The first poll brings flags that are refused and the second brings flags that are not. -/
def secondTry : List Action :=
  [.call 0 .start, .takeLock, .resume, .answer (.ok spaced) .half, .elapse 30000000000, .resume,
    .answer (.ok nested) .half]

/-- The flags of the second poll are visible although a `null` is nested in them, and the key of the first has no
value. -/
theorem serves_well_formed_secondTry :
    ∃ client, (initial .default 1).run secondTry = some client ∧
      (∀ action ∈ secondTry, action.OffersWellFormed) ∧
      client.snapshot.sequence = 1 ∧ client.snapshot.contains "limits" = true ∧
      validateKey "limits" = .ok () ∧
      validateKey "dark mode" ≠ .ok () ∧ client.getValue? "dark mode" = none ∧
      ¬spaced.flags.WellFormed ∧ nested.flags.WellFormed := by
  have ran : (initial .default 1).run secondTry = some _ := rfl
  have offers : ∀ action ∈ secondTry, action.OffersWellFormed := by simp [secondTry, Action.OffersWellFormed]
  obtain ⟨screens, keys, _, unknown⟩ := serves_well_formed .default 1 secondTry _ ran offers
  have refused : validateKey "dark mode" ≠ .ok () := by decide
  have shown : spaced.validate ≠ .ok () := by decide
  exact ⟨_, ran, offers, by decide, by decide, (keys "limits" (by decide)).1, refused, unknown _ refused,
    fun wellFormed => shown ((screens spaced _ (.refl _)).passes.mpr wellFormed),
    (screens nested _ (.refl _)).passes.mp (by decide)⟩

end Client

end LiveFlags
