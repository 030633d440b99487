import ClusterOperator.Pass.Attributes
import ClusterOperator.Pass.Outcome
import ClusterOperator.Settings

/-!
# Namespace passes

Nothing is asked of a server before its cluster is ready. Then a namespace is registered, or updated
where the server knows it already, and its search attributes are brought to those of the spec. A
namespace that is being deleted is deleted on the server before its finalizer goes; where the
cluster is gone, the finalizer goes without that.
-/

namespace ClusterOperator

namespace Namespace

/-- The condition that says that the namespace is registered. -/
def readyCondition (now : Instant) : Condition :=
  { type := Condition.readyType, status := .holds, reason := "NamespaceCreated",
    message := "namespace registered", since := now }

/-- The object with its finalizer there if and only if the spec allows deletion. -/
def alignFinalizer (ns : Namespace) : Namespace :=
  if ns.spec.allowDeletion then ns.addFinalizer else ns.removeFinalizer

/-- The key under which the failures of a namespace are counted. -/
def failureKey (key : ObjectKey) : String := "TemporalNamespace/" ++ key.text

/-- What there is to do for a namespace. -/
inductive Task where
  /-- The cluster is gone, and the namespace with it. -/
  | release
  /-- The cluster is not ready. -/
  | wait
  /-- The namespace is being deleted and still has its finalizer. -/
  | delete (cluster : Cluster)
  /-- The namespace is being deleted and does not wait for anything here. -/
  | leave
  /-- The namespace has to be registered. -/
  | converge (cluster : Cluster)

/-- What there is to do, given the cluster that the namespace names. -/
def task (ns : Namespace) (cluster : Option Cluster) : Except Error Task :=
  match cluster with
  | none =>
      if ns.metadata.isDeleting then .ok .release
      else .error (.missingCluster ns.key.text ns.clusterKey.text)
  | some cluster =>
      if !cluster.isReady then .ok .wait
      else if ns.metadata.isDeleting then
        if ns.hasFinalizer then .ok (.delete cluster) else .ok .leave
      else .ok (.converge cluster)

end Namespace

namespace Program

/-- Uses a connection to the server of a cluster and closes it, whatever comes of its use. -/
def withConnection {α : Type} (cluster : Cluster) (use : Fallible α) : Fallible α := do
  ask (.connect cluster)
  let result ← attempt use
  tell (.close cluster)
  liftM result

/-- Deletes a namespace on the server; one that is not there needs no deleting. -/
def deleteRemote (cluster : Cluster) (ns : Namespace) : Fallible Unit := do
  let deleted ← withConnection cluster (attempt (askServer cluster (.delete ns.name)))
  match deleted with
  | .ok () => pure ()
  | .error error => if error.isNotFound then pure () else throw error

/-- Registers a namespace, or updates it where it is there already, and brings its search attributes
to those of the spec. -/
def register (cluster : Cluster) (ns : Namespace) : Fallible Unit := do
  let request := NamespaceRequest.of cluster ns
  match ← attempt (askServer cluster (.register request)) with
  | .ok () => pure ()
  | .error error =>
      if error.isAlreadyExists then askServer cluster (.update request) else throw error
  discard <| convergeAttributes cluster request.name ns.spec.searchAttributes

/-- The part of a pass that is under the deadline: the namespace as it leaves it, and what came of
it. -/
def namespaceBody (settings : Settings) (now : Instant) (key : ObjectKey) (ns : Namespace) :
    Program (Namespace × Except Error Outcome) := do
  let late := Error.timeout key.text settings.passTimeout
  let task : Fallible Namespace.Task := do
    let cluster ← askStore (.getCluster ns.clusterKey)
    ns.task cluster
  match ← limit (.error late) task.run with
  | .error error => pure (ns, .error error)
  | .ok .release => pure (ns.removeFinalizer, .ok .finished)
  | .ok .wait => pure (ns, .ok (.requeue settings.pollInterval))
  | .ok .leave => pure (ns, .ok .finished)
  | .ok (.delete cluster) =>
      match ← limit (.error late) (deleteRemote cluster ns).run with
      | .error error => pure (ns, .error error)
      | .ok () => pure (ns.removeFinalizer, .ok .finished)
  | .ok (.converge cluster) =>
      let ns := ns.alignFinalizer
      match ← limit (.error late) (withConnection cluster (register cluster ns)).run with
      | .error error => pure (ns, .error error)
      | .ok () =>
          let ready := fun conditions =>
            (Condition.set (Namespace.readyCondition now) conditions).1
          pure (ns.mapConditions ready, .ok .success)

/-- A pass over a namespace. -/
def reconcileNamespace (settings : Settings) (now : Instant) (key : ObjectKey) :
    Fallible Action := do
  match ← askStore (.getNamespace key) with
  | none => do
      write (.unlisted key)
      leave (Namespace.failureKey key)
  | some ns => do
      write (.listed ns)
      let (changed, result) ← namespaceBody settings now key ns
      let patch := ObjectPatch.between ns (changed.record now result)
      let written ←
        if patch.isEmpty then pure (.ok ())
          else attempt (askStore (.patchNamespace key patch))
      conclude (Namespace.failureKey key) (settle result written)

end Program

end ClusterOperator
