import LiveFlags.Proofs.Client.Run
import LiveFlags.Proofs.Machine

/-!
# What is read off a run

The client is a machine, its runs are the histories of this machine (`run_eq`), and the trail of a run is
what its steps bring. What every allowed step keeps of a trail and a client holds of the whole trail after a
run of allowed actions (`trail_keeps`).
-/
namespace LiveFlags.Client

variable {Reading : Type} {read : Client → Action → Option Reading} {client next middle : Client}
  {action : Action} {actions : List Action}

/-- What is read off the steps of a run, in order. -/
def trail (read : Client → Action → Option Reading) (client : Client) (actions : List Action) :
    List Reading :=
  Machine.trail step read client actions

/-- A run of the client is a history of its machine. -/
theorem run_eq : client.run actions = Machine.run step client actions := by
  induction actions generalizing client with
  | nil => rfl
  | cons action actions ih =>
    unfold run Machine.run
    exact congrArg _ (funext fun _ => ih)

/-- A run that goes on is a run of all actions together. -/
theorem run_trans {first last : List Action} (ran : client.run first = some middle)
    (ran' : middle.run last = some next) : client.run (first ++ last) = some next := by
  rw [run_append, ran]
  exact ran'

/-- A step is a run of one action. -/
theorem run_singleton : client.run [action] = client.step action :=
  run_eq.trans Machine.run_singleton

/-- What every allowed step keeps of a trail and a client, every run of allowed actions keeps of its whole
trail. -/
theorem trail_keeps (read : Client → Action → Option Reading) (held : List Reading → Client → Prop)
    (allowed : Action → Prop)
    (keeps : ∀ {seen : List Reading} {client next : Client} {action : Action}, allowed action →
      client.step action = some next → held seen client → held (seen ++ (read client action).toList) next)
    (within : ∀ action ∈ actions, allowed action) (start : held [] client)
    (ran : client.run actions = some next) : held (client.trail read actions) next :=
  Machine.keeps_trail read held allowed keeps within start (run_eq ▸ ran)

end LiveFlags.Client
