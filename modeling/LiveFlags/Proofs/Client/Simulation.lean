import LiveFlags.Client.Simulation
import LiveFlags.Proofs.Client.Trail

/-!
# Simulated runs are runs

Whatever a simulation does, it takes its client along a run (`Leads`): every turn of its loop does (`leads_ready?`),
so the whole loop does (`leads_runUntil`), and with it every call that is simulated up to its return. So what is
proved of all runs of a client holds of every state that a simulation reaches (`simulated_reachable`).
-/
namespace LiveFlags.Simulation

/-- A run leads from the client of one simulation to that of another. -/
def Leads (first last : Simulation) : Prop := ∃ actions, first.client.run actions = some last.client

/-- What a caller may ask of a simulation, one thing after the other. -/
inductive Request where
  /-- To start the client. -/
  | start
  /-- To start it with nothing to run a task on. -/
  | startOutside
  /-- To stop it. -/
  | stop
  /-- To stop it twice at the same time. -/
  | stopTwice
  /-- To stop it, and to read its status after a while in the meantime. -/
  | stopWatched (duration : Duration)
  /-- To wait for the first snapshot. -/
  | waitReady (timeout : Duration)
  /-- To let time pass. -/
  | sleep (duration : Duration)
  /-- To let time pass until so many fetches have begun. -/
  | untilFetches (count : Nat)
  /-- To let the client act. -/
  | act (action : Action)

/-- The simulation after a request. -/
def follow (simulation : Simulation) : Request → Simulation
  | .start => simulation.start
  | .startOutside => simulation.startOutside
  | .stop => simulation.stop
  | .stopTwice => simulation.stopTwice
  | .stopWatched duration => (simulation.stopWatched duration).2
  | .waitReady timeout => (simulation.waitReady timeout).2
  | .sleep duration => simulation.sleep duration
  | .untilFetches count => simulation.untilFetches count
  | .act action => simulation.act action

variable {first middle last : Simulation}

/-- A simulation that does nothing has a run of no steps. -/
theorem leads_of_same (same : last.client = first.client) : Leads first last :=
  ⟨[], by rw [same]; rfl⟩

/-- Runs of simulations follow one another. -/
theorem Leads.trans (leads : Leads first middle) (leads' : Leads middle last) : Leads first last := by
  obtain ⟨actions, ran⟩ := leads
  obtain ⟨actions', ran'⟩ := leads'
  exact ⟨actions ++ actions', Client.run_trans ran ran'⟩

/-- An action of the client is a step, or nothing happens. -/
theorem leads_act (simulation : Simulation) (action : Action) : Leads simulation (simulation.act action) := by
  unfold act
  split
  · rename_i client stepped
    exact ⟨[action], Client.run_singleton.trans stepped⟩
  · exact leads_of_same rfl

/-- So is an action that uses up a draw. -/
theorem leads_actWithDraw (simulation : Simulation) (action : Draw → Action) :
    Leads simulation (simulation.actWithDraw action) :=
  leads_act { simulation with draws := simulation.draws.next.2, pending := none } _

/-- The poll task runs by a step, and a source that panics makes another. -/
theorem leads_resume (simulation : Simulation) : Leads simulation simulation.resume := by
  have begun := leads_act simulation .resume
  unfold resume
  dsimp only
  split
  · exact begun
  · split
    · exact begun
    · exact begun
    · exact begun.trans (leads_act { simulation.act .resume with script := _, pending := none } .panic)

/-- The task goes on by steps. -/
theorem leads_taskStep? {simulation next : Simulation} (stepped : simulation.taskStep? = some next) :
    Leads simulation next := by
  unfold taskStep? at stepped
  dsimp only at stepped
  split at stepped
  · obtain rfl := Option.some.inj stepped
    exact leads_resume simulation
  · split at stepped
    · obtain rfl := Option.some.inj stepped
      exact leads_resume simulation
    · contradiction
  · split at stepped
    · split at stepped
      · obtain rfl := Option.some.inj stepped
        exact leads_actWithDraw simulation _
      · split at stepped
        · obtain rfl := Option.some.inj stepped
          exact leads_actWithDraw simulation _
        · contradiction
    · split at stepped
      · obtain rfl := Option.some.inj stepped
        exact leads_actWithDraw simulation _
      · contradiction
  · contradiction
  · contradiction

/-- What happens at the present instant happens by steps. -/
theorem leads_ready? {simulation next : Simulation} (stepped : simulation.ready? = some next) :
    Leads simulation next := by
  have locked : ∀ {next : Simulation}, ready?.taskOrLock simulation = some next → Leads simulation next := by
    intro next stepped
    unfold ready?.taskOrLock at stepped
    split at stepped
    · split at stepped
      · obtain rfl := Option.some.inj stepped
        exact leads_act simulation _
      · obtain rfl := Option.some.inj stepped
        exact leads_act simulation _
    · exact leads_taskStep? stepped
  unfold ready? at stepped
  dsimp only at stepped
  split at stepped
  · split at stepped
    · obtain rfl := Option.some.inj stepped
      exact leads_act simulation _
    · split at stepped
      · obtain rfl := Option.some.inj stepped
        exact leads_act simulation _
      · exact locked stepped
  · exact locked stepped

/-- The loop of a simulation is a run, by induction on its fuel. -/
theorem leads_runUntil (simulation : Simulation) (done : Client → Bool) (limit : Instant) (fuel : Nat) :
    Leads simulation (simulation.runUntil done limit fuel) := by
  induction fuel generalizing simulation with
  | zero => exact leads_of_same rfl
  | succ fuel ih =>
    unfold runUntil
    split
    · exact leads_of_same rfl
    · split
      · rename_i next stepped
        exact (leads_ready? stepped).trans (ih next)
      · exact (leads_act simulation _).trans (ih _)

/-- Every request takes the client along a run. -/
theorem leads_follow (simulation : Simulation) (request : Request) : Leads simulation (simulation.follow request) := by
  cases request with
  | start | stop => exact (leads_act simulation _).trans (leads_runUntil _ _ _ _)
  | startOutside => exact leads_act simulation _
  | stopTwice => exact ((leads_act simulation _).trans (leads_act _ _)).trans (leads_runUntil _ _ _ _)
  | stopWatched duration =>
    -- the call takes the lock before the status is read
    exact (((leads_act simulation _).trans (leads_act _ _)).trans (leads_runUntil _ _ _ _)).trans
      (leads_runUntil _ _ _ _)
  | waitReady timeout => exact (leads_act simulation _).trans (leads_runUntil _ _ _ _)
  | sleep duration => exact leads_runUntil _ _ _ _
  | untilFetches count => exact leads_runUntil _ _ _ _
  | act action => exact leads_act simulation action

/-- Whatever a simulation is asked for, its client is one that a run reaches. -/
theorem simulated_reachable (config : Config) (timerStep : Nat) (script : List ScriptEntry)
    (requests : List Request) :
    ∃ actions, (Client.initial config timerStep).run actions =
      some (requests.foldl follow (ofClient (.initial config timerStep) script)).client := by
  have leads : ∀ (requests : List Request) (simulation : Simulation),
      Leads simulation (requests.foldl follow simulation) := by
    intro requests
    induction requests with
    | nil => exact fun simulation => leads_of_same rfl
    | cons request requests ih => exact fun simulation => (leads_follow simulation request).trans (ih _)
  exact leads requests (ofClient (.initial config timerStep) script)

end LiveFlags.Simulation
