import ClusterOperator.Builder.Labels
import ClusterOperator.Builder.Ports
import ClusterOperator.Child.Basic

/-!
# What services expose

The services of a cluster differ in their labels and ports and in whether they have an address of
their own. An `Exposure` holds the differences, and `Exposure.apply` brings an observed service into
shape.
-/

namespace ClusterOperator

/-- A port of a service that leads to a named container port. -/
def ServicePort.toNamed (name : String) (port : Int) (target : String) : ServicePort :=
  { name := some name, protocol := some "TCP", port, targetPort := some (.name target) }

/-- What a service of a cluster exposes. -/
structure Exposure where
  component : Component
  labels : StringMap String
  /-- Whether the service stands for every single pod, ready or not, without an address. -/
  headless : Bool
  ports : List ServicePort

namespace Exposure

/-- The frontend's calls and, where it has one, its HTTP API. -/
def frontend (cluster : Cluster) (labels : StringMap String) : Except Error Exposure := do
  let rpc ← cluster.rpcPort .frontend
  let http := (cluster.roleSettings .frontend).httpPort
  pure
    { component := .role .frontend
      labels
      headless := false
      ports := .toNamed "grpc-rpc" rpc "rpc" ::
        (http.map fun port => ServicePort.toNamed "http" port "http").toList }

/-- The ports of the single members of a service. The port names do not promise a protocol, because
calls between pods carry no host name by which a mesh could route them. -/
def members (cluster : Cluster) (role : Role) (labels : StringMap String) :
    Except Error Exposure := do
  let rpc ← cluster.rpcPort role
  let membership ← cluster.membershipPort role
  pure
    { component := .role role
      labels
      headless := true
      ports :=
        [.toNamed "tcp-rpc" rpc "rpc", .toNamed "tcp-membership" membership "membership",
          .toNamed "http-metrics" metricsPort "metrics"] }

/-- The web UI. -/
def ui (labels : StringMap String) : Exposure where
  component := .ui
  labels
  headless := false
  ports := [.toNamed "http" uiPort "http"]

/-- The spec of a service with what is exposed; all other fields stay. -/
def applySpec (exposure : Exposure) (cluster : Cluster) (spec : ServiceSpec) : ServiceSpec :=
  let spec :=
    { spec with
      type := some "ClusterIP"
      selector := some (cluster.selector exposure.component.text)
      ports := some exposure.ports }
  if exposure.headless then
    { spec with clusterIp := some "None", publishNotReadyAddresses := some true }
  else spec

/-- Brings a service into shape. -/
def apply (exposure : Exposure) (cluster : Cluster) (service : Service) : Except Error Service := do
  let metadata ← cluster.control
    { service.metadata with
      labels := some (mergeOver service.metadata.labels [exposure.labels])
      annotations := some (mergeOver service.metadata.annotations [cluster.childAnnotations]) }
  pure
    { service with
      metadata, spec := some (exposure.applySpec cluster (service.spec.getD {})) }

end Exposure

end ClusterOperator
