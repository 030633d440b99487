import ClusterOperator.Cluster.Basic
import ClusterOperator.Namespace.Basic

/-!
# The dependency index

Which namespaces hang on which cluster, so that a change of a cluster wakes them. Each namespace is
listed under the one cluster that it names; a second map from namespaces to clusters makes a
namespace that changes its cluster move instead of being listed twice.
-/

namespace ClusterOperator

/-- A finite set of keys in ascending order. -/
abbrev KeySet := SortedMap ObjectKey Unit

/-- The namespaces of each cluster, and the cluster of each namespace. -/
structure DependencyIndex where
  dependents : SortedMap ObjectKey KeySet := ∅
  clusterOf : SortedMap ObjectKey ObjectKey := ∅
  deriving DecidableEq

namespace DependencyIndex

/-- Forgets a namespace; a cluster without namespaces is forgotten too. -/
def remove (index : DependencyIndex) (dependent : ObjectKey) : DependencyIndex :=
  match index.clusterOf.get? dependent with
  | none => index
  | some cluster =>
      { clusterOf := index.clusterOf.erase dependent
        dependents :=
          match index.dependents.get? cluster with
          | none => index.dependents
          | some keys =>
              let others := keys.erase dependent
              if others.isEmpty then index.dependents.erase cluster
              else index.dependents.insert cluster others }

/-- Lists a namespace under a cluster and under no other. -/
def link (index : DependencyIndex) (dependent cluster : ObjectKey) : DependencyIndex :=
  let index := index.remove dependent
  { dependents :=
      index.dependents.insert cluster
        (((index.dependents.get? cluster).getD ∅).insert dependent ())
    clusterOf := index.clusterOf.insert dependent cluster }

/-- Lists a namespace under the cluster that it names. -/
def upsert (index : DependencyIndex) (ns : Namespace) : DependencyIndex :=
  if index.clusterOf.get? ns.key = some ns.clusterKey then index
  else index.link ns.key ns.clusterKey

/-- The index of a list of namespaces. -/
def rebuild (namespaces : List Namespace) : DependencyIndex :=
  namespaces.foldl (fun index ns => index.link ns.key ns.clusterKey) {}

/-- The namespaces of a cluster in ascending order. -/
def dependentsOf (index : DependencyIndex) (cluster : ObjectKey) : List ObjectKey :=
  ((index.dependents.get? cluster).getD ∅).keys

/-- The namespaces to look at again when a cluster has changed. -/
def propagate (index : DependencyIndex) (cluster : Cluster) : List ObjectKey :=
  index.dependentsOf cluster.key

/-- The number of namespaces in the index. -/
def size (index : DependencyIndex) : Nat := index.clusterOf.size

/-- Whether no namespace is in the index. -/
def isEmpty (index : DependencyIndex) : Bool := index.size = 0

end DependencyIndex

end ClusterOperator
