import ClusterOperator.ApiServer.Store
import ClusterOperator.Frontend.Client
import ClusterOperator.OperatorState
import ClusterOperator.Program.Environment

/-!
# Networks

An operator at work keeps its objects on an API server and asks the frontends of clusters, both over
HTTP. A network carries its requests.
-/

namespace ClusterOperator

/-- The world that an operator works in. -/
structure Network (σ : Type) where
  /-- Carries requests to the API server. -/
  api : Carrier σ
  /-- Carries requests to frontends. -/
  frontend : Carrier σ
  /-- Whether the deadline of the pass is over. -/
  isLate : σ → Bool

namespace Network

variable {σ : Type} (network : Network σ)

def answer : (request : Request) → σ → Except Error request.Answer × σ
  | .store request, state => (ApiServer.over network.api).answer request state
  | .connect cluster, state => (Cluster.connect cluster, state)
  | .server cluster request, state => Cluster.askFrontend network.frontend cluster request state
  | .close _, state => (.ok (), state)

/-- The network as an environment of passes. -/
def environment : Environment (OperatorState × σ) where
  note entry world := (world.1.take entry, world.2)
  call request world :=
    let (answer, state) := network.answer request world.2
    (answer, world.1, state)
  timed request world :=
    let (answer, state) := network.answer request world.2
    (if network.isLate state then none else some answer, world.1, state)

end Network

end ClusterOperator
