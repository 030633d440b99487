import ClusterOperator.Cluster.Spec
import ClusterOperator.Condition.Basic
import ClusterOperator.Object.Metadata

/-!
# Clusters

The custom resource that describes a cluster, and what is observed about it.
-/

namespace ClusterOperator

/-- What is observed about one service. -/
structure RoleStatus where
  name : String
  version : String
  ready : Bool
  deriving DecidableEq

/-- What is observed about a cluster. -/
structure ClusterStatus where
  conditions : List Condition := []
  version : Option String := none
  services : List RoleStatus := []
  deriving DecidableEq

instance : HasConditions ClusterStatus where
  initial := {}
  conditions := ClusterStatus.conditions
  withConditions status conditions := { status with conditions }

/-- A cluster of four services. -/
abbrev Cluster := Resource ClusterSpec ClusterStatus

namespace Cluster

/-- Whether the cluster is reported ready. -/
def isReady (cluster : Cluster) : Bool :=
  cluster.status.any fun status => Condition.isTrue Condition.readyType status.conditions

/-- The name of a child object of a cluster. -/
def childName (cluster : Cluster) (suffix : String) : String := cluster.name ++ "-" ++ suffix

end Cluster

end ClusterOperator
