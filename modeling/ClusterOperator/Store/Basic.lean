import ClusterOperator.Child.Basic
import ClusterOperator.Cluster.Basic
import ClusterOperator.Error
import ClusterOperator.Namespace.Basic

/-!
# The store in memory

The objects, each under its key, and a counter from which every change takes its version. The
counter moves with every attempt to change something, so no two contents of an object, of this one
or of a later object of the same name, carry the same version.
-/

namespace ClusterOperator

/-- The stored objects, and what is counted about the requests for them. -/
structure Store where
  clusters : SortedMap ObjectKey Cluster := ∅
  namespaces : SortedMap ObjectKey Namespace := ∅
  children : SortedMap ChildKey Child := ∅
  /-- The number of versions handed out. -/
  version : Nat := 0
  /-- The number of requests that changed something. -/
  writes : Nat := 0
  /-- The number of requests to delete a child, also of those that found none. -/
  deletions : Nat := 0

namespace Store

/-- The store with one more version handed out. -/
def advance (store : Store) : Store := { store with version := store.version + 1 }

/-- The store with one more change counted. -/
def countWrite (store : Store) : Store := { store with writes := store.writes + 1 }

/-- The version handed out last. -/
def currentVersion (store : Store) : String := toString store.version

end Store

namespace Metadata

/-- The metadata with the version handed out last. -/
def inVersion (metadata : Metadata) (store : Store) : Metadata :=
  { metadata with resourceVersion := some store.currentVersion }

/-- The metadata of an object that enters the store: in the first generation, and with an identity
of its own unless it brings one. -/
def enter (metadata : Metadata) (store : Store) : Metadata :=
  { metadata.inVersion store with
    generation := some 1
    uid := some (metadata.uid.getD
      ("uid-" ++ metadata.ns.getD "" ++ "-" ++ metadata.name.getD "")) }

/-- The generation after this one. -/
def nextGeneration (metadata : Metadata) : Int := metadata.generation.getD 0 + 1

/-- Whether nothing keeps an object whose deletion was requested. -/
def isReleased (metadata : Metadata) : Bool :=
  metadata.isDeleting && metadata.finalizerList.isEmpty

end Metadata

end ClusterOperator
