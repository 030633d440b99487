import ClusterOperator.Builder.Labels
import ClusterOperator.Builder.Ports
import ClusterOperator.Child.Basic

/-!
# What deployments run

The deployments of a cluster differ in the one container that they run. A `Workload` holds the
differences, and `Workload.apply` brings an observed deployment into shape: containers and
environment variables that somebody else added stay.
-/

namespace ClusterOperator

def ContainerPort.tcp (name : String) (port : Int) : ContainerPort :=
  { name := some name, containerPort := port, protocol := some "TCP" }

/-- An environment variable with a fixed value. -/
def EnvVar.plain (name value : String) : EnvVar := { name, value := some value }

/-- An environment variable with the address of the pod. -/
def EnvVar.podAddress (name : String) : EnvVar :=
  { name
    valueFrom :=
      some { fieldRef := some { apiVersion := some "v1", fieldPath := "status.podIP" } } }

/-- Sets an environment variable, in the place of the first one of that name. -/
def EnvVar.set (entry : EnvVar) (env : List EnvVar) : List EnvVar :=
  upsertFirst (fun other => other.name = entry.name) (fun _ => entry) entry env

/-- What a deployment of a cluster runs. -/
structure Workload where
  component : Component
  version : String
  replicas : Int
  containerName : String
  image : String
  env : List EnvVar
  /-- The ports of the container, where the workload has a say in them. -/
  ports : Option (List ContainerPort)

namespace Workload

/-- The ports of a service's container; only the frontend has an HTTP port. -/
def rolePorts (cluster : Cluster) (role : Role) : Except Error (List ContainerPort) := do
  let rpc ← cluster.rpcPort role
  let membership ← cluster.membershipPort role
  let http := if role = .frontend then (cluster.roleSettings role).httpPort else none
  pure <|
    [.tcp "rpc" rpc, .tcp "membership" membership, .tcp "metrics" metricsPort] ++
      (http.map (ContainerPort.tcp "http")).toList

/-- A service of the server. -/
def role (cluster : Cluster) (role : Role) : Except Error Workload := do
  let ports ← rolePorts cluster role
  pure
    { component := .role role
      version := cluster.spec.version
      replicas := (cluster.roleSettings role).replicas.getD 1
      containerName := "temporal"
      image := imageReference cluster.spec.image cluster.spec.version
      env := [.plain "SERVICES" role.text, .podAddress "POD_IP"]
      ports := some ports }

/-- The web UI. -/
def ui (cluster : Cluster) : Except Error Workload := do
  let settings := cluster.spec.ui.getD {}
  let address ← cluster.frontendAddress
  pure
    { component := .ui
      version := settings.version
      replicas := 1
      containerName := Component.ui.text
      image := imageReference settings.image settings.version
      env := [.plain "TEMPORAL_ADDRESS" address]
      ports := some [.tcp "http" uiPort] }

/-- The admin tools, in the version of the server. -/
def adminTools (cluster : Cluster) : Except Error Workload := do
  let address ← cluster.frontendAddress
  pure
    { component := .adminTools
      version := cluster.spec.version
      replicas := 1
      containerName := Component.adminTools.text
      image := imageReference (cluster.spec.adminTools.getD {}).image cluster.spec.version
      env := [.plain "TEMPORAL_ADDRESS" address, .plain "TEMPORAL_CLI_ADDRESS" address]
      ports := none }

/-- The container with what it is to run. -/
def applyContainer (workload : Workload) (container : Container) : Container :=
  { container with
    image := some workload.image
    env := some (workload.env.foldl (fun env entry => entry.set env) (container.env.getD []))
    ports := workload.ports.or container.ports }

/-- The containers of a pod with the workload's own one in shape. -/
def applyContainers (workload : Workload) (containers : List Container) : List Container :=
  upsertFirst (fun container => container.name = workload.containerName) workload.applyContainer
    (workload.applyContainer { name := workload.containerName }) containers

/-- The spec of a deployment with what it is to run; all other fields stay. -/
def applySpec (workload : Workload) (cluster : Cluster) (spec : DeploymentSpec) : DeploymentSpec :=
  let metadata := spec.template.metadata.getD {}
  let pod := spec.template.spec.getD {}
  let labels := cluster.childLabels workload.component.text workload.version
  { spec with
    replicas := some workload.replicas
    selector := { matchLabels := some (cluster.selector workload.component.text) }
    template :=
      { metadata := some { metadata with labels := some (mergeOver metadata.labels [labels]) }
        spec := some { pod with containers := workload.applyContainers pod.containers } } }

/-- Brings a deployment into shape. -/
def apply (workload : Workload) (cluster : Cluster) (deployment : Deployment) :
    Except Error Deployment := do
  let labels := cluster.childLabels workload.component.text workload.version
  let metadata ← cluster.control
    { deployment.metadata with
      labels := some (mergeOver deployment.metadata.labels [labels])
      annotations := some (mergeOver deployment.metadata.annotations [cluster.childAnnotations]) }
  pure
    { deployment with
      metadata, spec := some (workload.applySpec cluster (deployment.spec.getD {})) }

end Workload

end ClusterOperator
