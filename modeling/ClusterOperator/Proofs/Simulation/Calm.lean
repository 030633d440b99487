import ClusterOperator.Simulation.World

/-!
# Undisturbed worlds

Where no faults wait, the store and the server answer every request at once and as they are, and no
deadline strikes.
-/

namespace ClusterOperator

namespace World

variable {α : Type} {rules : WorldRules} {world : World}

/-- The world with one more request in the log. -/
def logged (request : Request) (world : World) : World :=
  { world with log := request :: world.log }

/-- The world after requests to its server, the first one first. -/
def served (world : World) (server : Server) (asked : List Request) : World :=
  { world with server, log := asked.reverse ++ world.log }

@[simp]
theorem server_served (server : Server) (asked : List Request) :
    (world.served server asked).server = server :=
  rfl

theorem served_served (first second : Server) (asked more : List Request) :
    (world.served first asked).served second more = world.served second (asked ++ more) := by
  simp [served]

theorem faults_answer (request : Request) (world : World) :
    (world.answer rules request).2.faults = world.faults := by
  cases request <;> rfl

theorem receive_of_calm (calm : world.faults = []) (request : Request) :
    world.receive request = (none, world.logged request) := by
  simp [receive, calm, Fault.next, logged]

theorem call_of_calm (calm : world.faults = []) (request : Request) :
    (environment rules).call request world = (world.logged request).answer rules request := by
  simp [environment, call, receive_of_calm calm]

theorem timed_of_calm (calm : world.faults = []) (request : Request) :
    (environment rules).timed request world =
      (some ((world.logged request).answer rules request).1,
        ((world.logged request).answer rules request).2) := by
  simp [environment, timed, receive_of_calm calm, Prod.map]

theorem faults_logged (calm : world.faults = []) (request : Request) :
    ((world.logged request).answer rules request).2.faults = [] :=
  (faults_answer request _).trans calm

open Program

theorem run_limit_of_calm (calm : world.faults = []) (cut : α) (program : Program α) :
    (limit cut program).run (environment rules) world =
      program.run (environment rules) world := by
  induction program generalizing world with
  | done value => rfl
  | note entry rest ih =>
      apply ih
      exact calm
  | call request next ih =>
      simp only [limit, Program.run, call_of_calm calm, timed_of_calm calm]
      apply ih
      exact faults_logged calm request
  | timed request cut next cutIh nextIh =>
      simp only [limit, Program.run, timed_of_calm calm]
      apply nextIh
      exact faults_logged calm request

theorem run_ask_of_calm (calm : world.faults = []) (request : Request) :
    (ask request).run.run (environment rules) world =
      (world.logged request).answer rules request :=
  call_of_calm calm request

theorem run_askStore_of_calm (calm : world.faults = []) (request : StoreRequest) :
    (askStore request).run.run (environment rules) world =
      ((world.store.answer request).1,
        { world with
          store := (world.store.answer request).2
          log := .store request :: world.log }) :=
  run_ask_of_calm calm (.store request)

theorem run_askServer_of_calm (calm : world.faults = []) (cluster : Cluster)
    (request : ServerRequest) :
    (askServer cluster request).run.run (environment rules) world =
      ((world.server.answer request).1,
        world.served (world.server.answer request).2 [.server cluster request]) :=
  run_ask_of_calm calm (.server cluster request)

end World

end ClusterOperator
