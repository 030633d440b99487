import ClusterOperator.ApiServer.Reply
import ClusterOperator.Program.Request

/-!
# The store on the API server

How the requests of a pass are made of calls of the API server. An object that is not there is no
error where it is read or deleted. A write that comes too late is a conflict.

A patch takes up to two calls: one for the metadata, and then one for the status, which is bound to
the version that the first one left. A status is not missed where the first call made the object go.
-/

namespace ClusterOperator

/-- The error of a failed write to an object. -/
def ApiFailure.ofWrite (object : String) : ApiFailure → Error
  | refused status message reason code =>
      if code = 409 then .conflict object message else .api (refused status message reason code)
  | failure => .api failure

/-- Whether a call was refused because there is no such object. -/
def ApiFailure.isAbsence : ApiFailure → Bool
  | refused _ _ reason _ => reason = "NotFound"
  | lost _ => false

namespace ApiServer

variable {σ α : Type} (server : ApiServer σ)

/-- Makes a call and reads the document that it gives. -/
def fetch (read : Json → Option α) (call : ApiCall) : StateM σ (Except ApiFailure α) := do
  match ← server call with
  | .error failure => pure (.error failure)
  | .ok document => pure ((read document).elim (.error .unreadable) .ok)

/-- Reads an object, if it is there. -/
def getObject (read : Json → Option α) (kind : ApiKind) (key : ObjectKey) :
    StateM σ (Except Error (Option α)) := do
  match ← server.fetch read (.get kind key) with
  | .ok value => pure (.ok (some value))
  | .error failure => pure (if failure.isAbsence then .ok none else .error (.api failure))

/-- Reads the objects of a list. -/
def itemsOf? (read : Json → Option α) (document : Json) : Option (List α) :=
  Json.orElse [] (Json.listOf? read) "items" document.fields

/-- Makes a call that writes an object. -/
def writeObject (read : Json → Option α) (object : String) (call : ApiCall) :
    StateM σ (Except Error α) := do
  let result ← server.fetch read call
  pure (result.mapError (ApiFailure.ofWrite object))

/-- Deletes an object, which may be gone already. -/
def deleteObject (kind : ApiKind) (key : ObjectKey) : StateM σ (Except Error Unit) := do
  match ← server (.delete kind key) with
  | .ok _ => pure (.ok ())
  | .error failure => pure (if failure.code? = some 404 then .ok () else .error (.api failure))

variable {Spec Status : Type}

/-- Patches the metadata of an object, if they change, and gives the version that the status is to
be bound to. -/
def patchMetadata (read : Json → Option (Resource Spec Status)) (kind : ApiKind) (key : ObjectKey)
    (patch : ObjectPatch Status) : StateM σ (Except Error (Option String)) :=
  match patch.metadataMergePatch with
  | none => pure (.ok patch.resourceVersion)
  | some changes => do
      let result ← server.writeObject read key.text (.patch kind key .main changes)
      pure (result.map fun resource => resource.metadata.resourceVersion)

/-- Patches the status of an object, if it changes. -/
def patchStatus (read : Json → Option (Resource Spec Status)) (write : Status → Json)
    (kind : ApiKind) (key : ObjectKey) (patch : ObjectPatch Status) (version : Option String) :
    StateM σ (Except Error Unit) :=
  match patch.statusMergePatch write version with
  | none => pure (.ok ())
  | some changes => do
      match ← server.fetch read (.patch kind key .status changes) with
      | .ok _ => pure (.ok ())
      | .error failure =>
          pure (if failure.code? = some 404 then .ok () else .error (failure.ofWrite key.text))

/-- Applies a patch to an object. -/
def patchObject (read : Json → Option (Resource Spec Status)) (write : Status → Json)
    (kind : ApiKind) (key : ObjectKey) (patch : ObjectPatch Status) :
    StateM σ (Except Error Unit) := do
  match ← server.patchMetadata read kind key patch with
  | .error error => pure (.error error)
  | .ok version => server.patchStatus read write kind key patch version

def answer : (request : StoreRequest) → StateM σ (Except Error request.Answer)
  | .getCluster key => server.getObject Cluster.ofJson? .cluster key
  | .replaceCluster cluster =>
      server.writeObject Cluster.ofJson? cluster.key.text
        (.replace .cluster cluster.key (Cluster.toJson cluster))
  | .patchCluster key patch =>
      server.patchObject Cluster.ofJson? ClusterStatus.toJson .cluster key patch
  | .getNamespace key => server.getObject Namespace.ofJson? .ns key
  | .listNamespaces => do
      let result ← server.fetch (itemsOf? Namespace.ofJson?) (.list .ns)
      pure (result.mapError .api)
  | .patchNamespace key patch =>
      server.patchObject Namespace.ofJson? NamespaceStatus.toJson .ns key patch
  | .getChild key => server.getObject (Child.ofJson? key.kind) (.child key.kind) key.object
  | .createChild child =>
      server.writeObject (Child.ofJson? child.kind) child.key.text
        (.create (.child child.kind) child.key.object.ns child.toJson)
  | .replaceChild child =>
      server.writeObject (Child.ofJson? child.kind) child.key.text
        (.replace (.child child.kind) child.key.object child.toJson)
  | .deleteChild key => server.deleteObject (.child key.kind) key.object

end ApiServer

end ClusterOperator
