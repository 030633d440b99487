import ClusterOperator.Frontend.Address
import ClusterOperator.OperatorState
import ClusterOperator.Pass.Outcome
import ClusterOperator.Program.Environment
import ClusterOperator.Program.Request
import ClusterOperator.Settings
import ClusterOperator.Simulation.Server
import ClusterOperator.Store.Answer
import ClusterOperator.Store.Edit

/-!
# A world in memory

A store, a server and an operator, with faults that disturb what they do. Time passes only in
faults. The requests of a run are kept in a log.
-/

namespace ClusterOperator

/-! ## Faults

What can go wrong at a request: it takes time, somebody edits an object meanwhile, and it fails. A
fault waits at one kind of request until its turn comes.
-/

/-- The name of a kind of request to the store. -/
def StoreRequest.point : StoreRequest → String
  | getCluster _ => "store.get_cluster"
  | replaceCluster _ => "store.replace_cluster"
  | patchCluster _ _ => "store.patch_cluster"
  | getNamespace _ => "store.get_namespace"
  | listNamespaces => "store.list_namespaces"
  | patchNamespace _ _ => "store.patch_namespace"
  | getChild _ => "store.get_child"
  | createChild _ => "store.create_child"
  | replaceChild _ => "store.replace_child"
  | deleteChild _ => "store.delete_child"

/-- The name of a kind of request to a server. -/
def ServerRequest.point : ServerRequest → String
  | register _ => "remote.register_namespace"
  | update _ => "remote.update_namespace"
  | delete _ => "remote.delete_namespace"
  | listAttributes _ => "remote.list_search_attributes"
  | addAttributes _ _ => "remote.add_search_attributes"
  | removeAttributes _ _ => "remote.remove_search_attributes"

/-- The name of a kind of request. -/
def Request.point : Request → String
  | store request => request.point
  | connect _ => "remote.connect"
  | server _ request => request.point
  | close _ => "remote.close"

/-- What happens at a request. -/
structure Fault where
  /-- The kind of request. -/
  point : String
  /-- How many requests of that kind pass undisturbed before. -/
  skip : Nat := 0
  /-- Whether it happens again and again. -/
  repeats : Bool := false
  /-- How long the request takes, in nanoseconds. -/
  sleep : Nat := 0
  /-- What somebody edits meanwhile. -/
  edit : Option Edit := none
  /-- How the request fails. -/
  error : Option Error := none

/-- The fault that happens at a kind of request, and the faults that are left. Only the first fault
that waits there counts, even where it lets the request pass. -/
def Fault.next (point : String) : List Fault → Option Fault × List Fault
  | [] => (none, [])
  | fault :: rest =>
      if fault.point = point then
        match fault.skip with
        | skip + 1 => (none, { fault with skip } :: rest)
        | 0 => (some fault, if fault.repeats then fault :: rest else rest)
      else
        let (met, rest) := next point rest
        (met, fault :: rest)

/-! ## Worlds -/

/-- What stays the same in a world. -/
structure WorldRules where
  settings : Settings
  /-- Whether only clusters with a reachable frontend can be connected to. -/
  checksAddress : Bool

/-- The state of a world. -/
structure World where
  store : Store := {}
  server : Server := ∅
  operator : OperatorState := {}
  faults : List Fault := []
  /-- The requests of the run, the last one first. -/
  log : List Request := []
  /-- The nanoseconds that the run has spent under its deadline. -/
  elapsed : Nat := 0

namespace World

variable (rules : WorldRules)

/-- Answers a request that nothing disturbs. -/
def answer : (request : Request) → World → Except Error request.Answer × World
  | .store request, world =>
      let (answer, store) := world.store.answer request
      (answer, { world with store })
  | .connect cluster, world =>
      (if rules.checksAddress then cluster.frontendUrl.map fun _ => () else .ok (), world)
  | .server _ request, world =>
      let (answer, server) := world.server.answer request
      (answer, { world with server })
  | .close _, world => (.ok (), world)

/-- Answers a request at which a fault happens, once the time that it takes is over. An edit that
makes no object of its kind is not made. -/
def disturbed (fault : Fault) (request : Request) (world : World) :
    Except Error request.Answer × World :=
  let world :=
    match fault.edit.bind fun edit => edit.perform? world.store with
    | none => world
    | some (_, store) => { world with store }
  match fault.error with
  | some error => (.error error, world)
  | none => world.answer rules request

/-- Logs a request and finds the fault that happens at it. -/
def receive (request : Request) (world : World) : Option Fault × World :=
  let (fault, faults) := Fault.next request.point world.faults
  (fault, { world with faults, log := request :: world.log })

def call (request : Request) (world : World) : Except Error request.Answer × World :=
  match world.receive request with
  | (none, world) => world.answer rules request
  | (some fault, world) => world.disturbed rules fault request

/-- Answers a request under the deadline of a pass, which strikes where the request takes too
long. -/
def timed (request : Request) (world : World) : Option (Except Error request.Answer) × World :=
  match world.receive request with
  | (none, world) => (world.answer rules request).map some id
  | (some fault, world) =>
      let world := { world with elapsed := world.elapsed + fault.sleep }
      if rules.settings.passTimeout.nanoseconds < world.elapsed then (none, world)
      else (world.disturbed rules fault request).map some id

/-- The world as an environment of passes. -/
def environment : Environment World where
  note entry world := { world with operator := world.operator.take entry }
  call := call rules
  timed := timed rules

/-- Runs a program from now on. -/
def run {α : Type} (program : Program α) (world : World) : α × World :=
  program.run (environment rules) { world with log := [], elapsed := 0 }

/-- Runs a pass. Where it fails, the operator counts one more failure of the object. -/
def pass (failureKey : String) (program : Program.Fallible Action) (world : World) :
    Except Error Action × World :=
  match world.run rules program.run with
  | (.ok action, world) => (.ok action, world)
  | (.error error, world) =>
      (.error error, { world with operator := world.operator.fail failureKey })

end World

end ClusterOperator
