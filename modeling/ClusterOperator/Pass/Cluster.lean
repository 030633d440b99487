import ClusterOperator.Cluster.Defaults
import ClusterOperator.Cluster.Validation
import ClusterOperator.Pass.Children
import ClusterOperator.Pass.Outcome
import ClusterOperator.Settings

/-!
# Cluster passes

A pass first makes the spec complete; the pass after the resulting change finds it complete, checks
it, brings the children into shape and reports which services are ready. A cluster that is being
deleted is left alone, because its children go with it.
-/

namespace ClusterOperator

namespace Cluster

/-- What is observed about the declared services, given the children after a pass. -/
def roleStatuses (cluster : Cluster) (children : List Child) : List RoleStatus :=
  cluster.spec.declaredRoles.map fun role =>
    let wanted := ((cluster.spec.role? role).bind RoleSpec.replicas).getD 1
    let deployment := (children.filterMap Child.deployment?).find? fun deployment =>
      deployment.metadata.name = some (cluster.childName role.text)
    { name := role.text
      version := cluster.spec.version
      ready := deployment.any (·.isRolledOut wanted) }

/-- The condition that says whether all services are ready. -/
def readyCondition (now : Instant) (services : List RoleStatus) : Condition :=
  let pending := services.filter fun service => !service.ready
  if pending = [] then
    { type := Condition.readyType, status := .holds, reason := "ServicesReady",
      message := "all services are ready", since := now }
  else
    { type := Condition.readyType, status := .fails, reason := "ServicesNotReady",
      message := "waiting for " ++ ", ".intercalate (pending.map RoleStatus.name), since := now }

/-- The cluster with its services and their readiness reported. The deployed version is the one of
the spec once all services are ready. -/
def report (cluster : Cluster) (now : Instant) (services : List RoleStatus) : Cluster :=
  let status := cluster.statusOrInitial
  { cluster with
    status := some
      { conditions := (Condition.set (readyCondition now services) status.conditions).1
        version :=
          if services.all RoleStatus.ready then some cluster.spec.version else status.version
        services } }

/-- The key under which the failures of a cluster are counted. -/
def failureKey (key : ObjectKey) : String := "TemporalCluster/" ++ key.text

end Cluster

namespace Program

/-- The part of a pass that is under the deadline: the cluster as it leaves it, and what came of
it. -/
def clusterBody (settings : Settings) (now : Instant) (key : ObjectKey) (cluster : Cluster) :
    Program (Cluster × Except Error Outcome) := do
  let late := Error.timeout key.text settings.passTimeout
  if cluster.spec.isNormal then
    match cluster.spec.validate cluster.key.text with
    | .error error => pure (cluster, .error error)
    | .ok () =>
        match ← limit (.error late) (convergeChildren cluster).run with
        | .error error => pure (cluster, .error error)
        | .ok children => pure (cluster.report now (cluster.roleStatuses children), .ok .success)
  else
    let filled := { cluster with spec := cluster.spec.withDefaults }
    match ← limit (.error late) (askStore (.replaceCluster filled)).run with
    | .error error => pure (filled, .error error)
    | .ok _ => pure (filled, .ok .finished)

/-- A pass over a cluster. -/
def reconcileCluster (settings : Settings) (now : Instant) (key : ObjectKey) : Fallible Action := do
  match ← askStore (.getCluster key) with
  | none => leave (Cluster.failureKey key)
  | some cluster =>
      if cluster.metadata.isDeleting then leave (Cluster.failureKey key)
      else do
        let (changed, result) ← clusterBody settings now key cluster
        let patch := ObjectPatch.between cluster (changed.record now result)
        let written ←
          if patch.isEmpty then pure (.ok ())
          else attempt (askStore (.patchCluster key patch))
        conclude (Cluster.failureKey key) (settle result written)

end Program

end ClusterOperator
