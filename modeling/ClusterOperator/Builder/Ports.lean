import ClusterOperator.Cluster.Basic
import ClusterOperator.Error

/-!
# Ports and addresses of a cluster

What the objects of a cluster have to agree on: which port a service listens on, and where the
frontend is reached.
-/

namespace ClusterOperator

/-- The port on which every service reports its metrics. -/
def metricsPort : Int := 9090

/-- The port of the web UI. -/
def uiPort : Int := 8080

def imageReference (image tag : String) : String := image ++ ":" ++ tag

namespace Cluster

variable (cluster : Cluster)

/-- The settings of a service; where it is not declared, all of them are open. -/
def roleSettings (role : Role) : RoleSpec := (cluster.spec.role? role).getD {}

/-- A port that has to be set. -/
def requirePort (role : Role) (field : String) (port : Option Int) : Except Error Int :=
  match port with
  | some port => .ok port
  | none =>
      .error (.builder (cluster.childName role.text)
        ("services." ++ role.text ++ "." ++ field ++ " is not set"))

/-- The port that a service is called on. -/
def rpcPort (role : Role) : Except Error Int :=
  cluster.requirePort role "port" (cluster.roleSettings role).port

/-- The port on which the members of a service find one another. -/
def membershipPort (role : Role) : Except Error Int :=
  cluster.requirePort role "membershipPort" (cluster.roleSettings role).membershipPort

/-- Where the frontend is called. -/
def frontendAddress : Except Error String := do
  let port ← cluster.rpcPort .frontend
  pure (cluster.childName Role.frontend.text ++ "." ++ cluster.ns ++ ":" ++ toString port)

end Cluster

end ClusterOperator
