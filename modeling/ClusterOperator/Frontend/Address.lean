import ClusterOperator.Cluster.Basic
import ClusterOperator.Error

/-!
# The address of a frontend

Where the HTTP API of a cluster's frontend is, and what the codes of its answers mean.
-/

namespace ClusterOperator

/-- The base URL of the frontend's HTTP API. Clusters with managed certificates cannot be reached
over it, and without a port there is no API. -/
def Cluster.frontendUrl (cluster : Cluster) : Except Error String :=
  if cluster.spec.mutualTlsEnabled then
    .error (.validation cluster.key.text
      "mTLS-enabled clusters are not reachable over the frontend HTTP API")
  else
    match (cluster.spec.role? .frontend).bind RoleSpec.httpPort with
    | none => .error (.validation cluster.key.text "frontend httpPort is not set")
    | some port =>
        .ok ("http://" ++ cluster.childName "frontend" ++ "." ++ cluster.ns ++ ".svc:" ++
          toString port)

/-- What went wrong, by the code of an answer that reports a failure. -/
def RemoteFault.ofStatus (code : Nat) : RemoteFault :=
  if code = 409 then alreadyExists
  else if code = 404 then notFound
  else if code = 408 ∨ code = 429 ∨ 500 ≤ code ∧ code < 600 then unavailable
  else rejected

end ClusterOperator
