import LiveFlags.Proofs.Client.Timing

/-!
# Sources of flags

A `FlagSource` says of every fetch, in their order, what comes of it: an answer after some time, a panic after
some time, or nothing ever. A run is driven by a source (`Client.DrivenBy`) if the fetch in flight ends
as the source has it and at its time: time does not pass the instant at which the source is done, and a
fetch is cut off only if the source is not done by then, so an answer that comes exactly when the time for
the fetch is over still counts. Every sequence of behaviours is a source, so what holds for all sources
holds whatever the source makes of what it is told.
-/
namespace LiveFlags

/-- What a source does with a fetch once it has begun. -/
inductive Behaviour where
  /-- It answers after so many nanoseconds. -/
  | answers (delay : Nat) (result : Except FetchError FlagSet)
  /-- It panics after so many nanoseconds. -/
  | panics (delay : Nat)
  /-- It never comes to an end. -/
  | hangs

/-- After how many nanoseconds the source is done, if ever. -/
def Behaviour.delay? : Behaviour → Option Nat
  | .answers delay _ => some delay
  | .panics delay => some delay
  | .hangs => none

/-- What a source does with each fetch. -/
abbrev FlagSource := Nat → Behaviour

namespace Client

/-- What the source does with the fetch that has begun last. -/
def behaviour (client : Client) (source : FlagSource) : Behaviour := source (client.fetches.size - 1)

/-- The source lets the action happen: it is not the source's, or it is what the source does now, and the
source has not been passed over. -/
def Allows (source : FlagSource) (client : Client) (action : Action) : Prop :=
  ∀ started cutOff, client.task = .fetching started cutOff →
    match action with
    | .answer result _ => ∃ delay, client.behaviour source = .answers delay result ∧
      client.now = started + delay
    | .panic => ∃ delay, client.behaviour source = .panics delay ∧ client.now = started + delay
    | .cutOff _ => ∀ delay, (client.behaviour source).delay? = some delay → client.now < started + delay
    | .elapse nanos => ∀ delay, (client.behaviour source).delay? = some delay →
      client.now + nanos ≤ started + delay
    | _ => True

/-- The source lets every action of the run happen. -/
def DrivenBy (source : FlagSource) (client : Client) : List Action → Prop
  | [] => True
  | action :: actions => client.Allows source action ∧
    ∀ next, client.step action = some next → next.DrivenBy source actions

/-- A run is driven by a source if its first step is and the rest is. -/
theorem drivenBy_cons {source : FlagSource} {client next : Client} {action : Action}
    {actions : List Action} (allowed : client.Allows source action)
    (stepped : client.step action = some next) (driven : next.DrivenBy source actions) :
    client.DrivenBy source (action :: actions) := by
  refine ⟨allowed, fun next' stepped' => ?_⟩
  obtain rfl := Option.some.inj (stepped.symm.trans stepped')
  exact driven

end Client

end LiveFlags
