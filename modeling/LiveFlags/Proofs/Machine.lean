import Mathlib.Data.List.Induction

/-!
# Machines and their histories

A machine says which state follows a state and an action, if the action can happen there. A history is a
list of actions that can happen in their order. What every step keeps of the history and the state holds
of every history (`Machine.keeps_history`). A reading says of a step what it brings, if it brings
something; the trail of a history is what its steps bring, in order (`Machine.trail`).
-/
namespace LiveFlags

/-- What follows an action in a state, if the action can happen there. -/
abbrev Machine (State Action : Type) := State → Action → Option State

namespace Machine

variable {State Action Reading : Type} {step : Machine State Action} {state next middle : State}
  {action : Action} {actions : List Action} {read : State → Action → Option Reading}

/-- The state after a list of actions, if all of them can happen in this order. -/
def run (step : Machine State Action) (state : State) : List Action → Option State
  | [] => some state
  | action :: actions => (step state action).bind fun next => run step next actions

/-- What is read off the steps of a history, in order. -/
def trail (step : Machine State Action) (read : State → Action → Option Reading) (state : State) :
    List Action → List Reading
  | [] => []
  | action :: actions =>
    match step state action with
    | none => []
    | some next => (read state action).toList ++ trail step read next actions

/-- A history begins with a step and goes on with a history. -/
theorem run_cons (ran : step.run state (action :: actions) = some next) :
    ∃ middle, step state action = some middle ∧ step.run middle actions = some next :=
  Option.bind_eq_some_iff.mp ran

/-- A history of two lists of actions is a history of the first and then of the second. -/
theorem run_append (first last : List Action) :
    step.run state (first ++ last) = (step.run state first).bind fun middle => step.run middle last := by
  induction first generalizing state with
  | nil => rfl
  | cons action first ih =>
    simp only [List.cons_append, run]
    cases step state action with
    | none => rfl
    | some middle => exact ih

/-- A history that goes on is a history of all actions together. -/
theorem run_trans {first last : List Action} (ran : step.run state first = some middle)
    (ran' : step.run middle last = some next) : step.run state (first ++ last) = some next := by
  rw [run_append, ran]
  exact ran'

/-- A history of one action is a step. -/
theorem run_singleton : step.run state [action] = step state action := by
  unfold run
  cases step state action with
  | none => rfl
  | some next => rfl

/-- A history ends with a step. -/
theorem run_concat (ran : step.run state (actions ++ [action]) = some next) :
    ∃ middle, step.run state actions = some middle ∧ step middle action = some next := by
  rw [run_append] at ran
  obtain ⟨middle, ran, stepped⟩ := Option.bind_eq_some_iff.mp ran
  exact ⟨middle, ran, run_singleton.symm.trans stepped⟩

/-- What every step keeps of the history so far and the state holds of the whole history after it. -/
theorem keeps_history (held : List Action → State → Prop)
    (keeps : ∀ {history : List Action} {middle next : State} {action : Action},
      step.run state history = some middle → step middle action = some next → held history middle →
      held (history ++ [action]) next)
    (start : held [] state) (ran : step.run state actions = some next) : held actions next := by
  -- the history is taken apart from its end
  induction actions using List.reverseRecOn generalizing next with
  | nil =>
    obtain rfl := Option.some.inj ran
    exact start
  | append_singleton history action ih =>
    obtain ⟨middle, ran, stepped⟩ := run_concat ran
    exact keeps ran stepped (ih ran)

/-- The trail of a history is what its first step brings and the trail of the rest. -/
theorem trail_cons (stepped : step state action = some next) :
    step.trail read state (action :: actions) =
      (read state action).toList ++ step.trail read next actions := by
  simp only [trail, stepped]

/-- The trail of a history in two parts is that of the first and that of the second. -/
theorem trail_append {first last : List Action} (ran : step.run state first = some middle) :
    step.trail read state (first ++ last) =
      step.trail read state first ++ step.trail read middle last := by
  induction first generalizing state with
  | nil =>
    obtain rfl := Option.some.inj ran
    rfl
  | cons action first ih =>
    obtain ⟨after, stepped, ran⟩ := run_cons ran
    rw [List.cons_append, trail_cons stepped, trail_cons stepped, ih ran, List.append_assoc]

/-- The last step of a history brings the end of its trail. -/
theorem trail_concat (ran : step.run state actions = some middle) (stepped : step middle action = some next) :
    step.trail read state (actions ++ [action]) =
      step.trail read state actions ++ (read middle action).toList := by
  rw [trail_append ran, trail_cons stepped, trail, List.append_nil]

/-- What every allowed step keeps of a trail and a state holds of the whole trail after a history of allowed
actions. -/
theorem keeps_trail (read : State → Action → Option Reading) (held : List Reading → State → Prop)
    (allowed : Action → Prop)
    (keeps : ∀ {seen : List Reading} {middle next : State} {action : Action}, allowed action →
      step middle action = some next → held seen middle → held (seen ++ (read middle action).toList) next)
    (within : ∀ action ∈ actions, allowed action) (start : held [] state)
    (ran : step.run state actions = some next) : held (step.trail read state actions) next := by
  refine keeps_history (fun history middle => (∀ action ∈ history, allowed action) →
    held (step.trail read state history) middle) (fun ran stepped kept within => ?_) (fun _ => start) ran within
  obtain ⟨before, here⟩ := List.forall_mem_append.mp within
  rw [trail_concat ran stepped]
  exact keeps (here _ List.mem_cons_self) stepped (kept before)

end Machine

end LiveFlags
